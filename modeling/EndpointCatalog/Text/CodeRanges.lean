namespace EndpointCatalog.Text

def hexDigit? (c : Char) : Option Nat :=
  if '0' ≤ c ∧ c ≤ '9' then some (c.toNat - '0'.toNat)
  else if 'a' ≤ c ∧ c ≤ 'f' then some (c.toNat - 'a'.toNat + 10)
  else if 'A' ≤ c ∧ c ≤ 'F' then some (c.toNat - 'A'.toNat + 10)
  else none

def hexChar (n : Nat) : Char :=
  if n < 10 then Char.ofNat ('0'.toNat + n) else Char.ofNat ('a'.toNat + (n - 10))

def hexDigits : Nat → Nat → List Char
  | 0, _ => []
  | width + 1, n => hexDigits width (n / 16) ++ [hexChar (n % 16)]

-- A character that is no digit counts as zero.
def readBase (base : Nat) (digits : List Char) : Nat :=
  digits.foldl (fun n c => base * n + (hexDigit? c).getD 0) 0

-- A mark that occurs `n` times gives `n + 1` pieces.
def cutAt {α : Type} [DecidableEq α] (mark : α) : List α → List (List α)
  | [] => [[]]
  | c :: rest =>
    if c = mark then [] :: cutAt mark rest
    else match cutAt mark rest with
      | [] => [[c]]
      | piece :: pieces => (c :: piece) :: pieces

def entriesOf (text : String) : List (List Char) :=
  ((cutAt '\n' text.toList).flatMap (cutAt ' ')).filter (· ≠ [])

def readRun (text : List Char) : Nat × Nat :=
  match cutAt '-' text with
  | [low, high] => (readBase 16 low, readBase 16 high)
  | _ => (readBase 16 text, readBase 16 text)

structure CodeRanges where
  runs : Array (Nat × Nat)

def runsUpTo (runs : Array (Nat × Nat)) (c low high : Nat) : Nat :=
  if low < high then
    let middle := (low + high) / 2
    if (runs.getD middle (0, 0)).1 ≤ c then runsUpTo runs c (middle + 1) high
    else runsUpTo runs c low middle
  else low
termination_by high - low

def runOf? (runs : Array (Nat × Nat)) (c : Nat) : Option Nat :=
  match runsUpTo runs c 0 runs.size with
  | 0 => none
  | k + 1 => if c ≤ (runs.getD k (0, 0)).2 then some k else none

def CodeRanges.ofText (text : String) : CodeRanges :=
  ⟨((entriesOf text).map readRun).toArray⟩

def CodeRanges.contains (set : CodeRanges) (c : Char) : Bool :=
  (runOf? set.runs c.toNat).isSome

-- Every `stride`-th member moves together with the run.
structure RunImage where
  stride : Nat
  image : List Nat

structure CodeMap where
  runs : Array (Nat × Nat)
  images : Array RunImage

-- An entry is `a-b/2>t.u`: the run, its stride and the image of its first member.
def readImage (text : List Char) : (Nat × Nat) × RunImage :=
  match cutAt '>' text with
  | [source, image] =>
    let targets := (cutAt '.' image).map (readBase 16)
    match cutAt '/' source with
    | [run, stride] => (readRun run, ⟨readBase 10 stride, targets⟩)
    | _ => (readRun source, ⟨1, targets⟩)
  | _ => (readRun text, ⟨1, []⟩)

def CodeMap.ofText (text : String) : CodeMap :=
  let entries := (entriesOf text).map readImage
  ⟨(entries.map (·.1)).toArray, (entries.map (·.2)).toArray⟩

def CodeMap.find? (map : CodeMap) (c : Char) : Option (List Char) := do
  let k ← runOf? map.runs c.toNat
  let image := map.images.getD k ⟨1, []⟩
  let distance := c.toNat - (map.runs.getD k (0, 0)).1
  if distance % image.stride = 0 then some (image.image.map fun t => Char.ofNat (t + distance))
  else none

end EndpointCatalog.Text
