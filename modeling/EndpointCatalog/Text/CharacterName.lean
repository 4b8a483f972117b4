import EndpointCatalog.Text.CharacterNameTable
import EndpointCatalog.Text.CodeRanges

namespace EndpointCatalog.Text

namespace CharacterName

abbrev Words := List (List Char)

def nextNumber (digits : List Char) : List Char :=
  let next := Nat.toDigits 10 (readBase 10 digits + 1)
  List.replicate (digits.length - next.length) '0' ++ next

def countOn (word : List Char) : List Char :=
  let digits := (word.reverse.takeWhile Char.isDigit).reverse
  word.take (word.length - digits.length) ++ nextNumber digits

def codeDigits (code : Nat) : List Char :=
  let digits := (Nat.toDigits 16 code).map Char.toUpper
  List.replicate (4 - digits.length) '0' ++ digits

def withCode (code : Nat) (word : List Char) : List Char :=
  (word.reverse.dropWhile (· ≠ '-')).reverse ++ codeDigits code

def changeLast (change : List Char → List Char) (words : Words) : Words :=
  match words.getLast? with
  | some last => words.dropLast ++ [change last]
  | none => []

structure Place where
  code : Nat
  words : Words

def sharedCount (c : Char) : Nat :=
  if c.isDigit then c.toNat - '0'.toNat else c.toNat - 'a'.toNat + 10

def follow (wanted : Words) (change : Nat → List Char → List Char) : Nat → Place → Except Nat Place
  | 0, place => .ok place
  | left + 1, place =>
    let words := changeLast (change place.code) place.words
    if words = wanted then .error place.code else follow wanted change left ⟨place.code + 1, words⟩

def step (wanted : Words) (place : Place) (entry : List Char) : Except Nat Place :=
  match entry with
  | '+' :: count => follow wanted (fun _ => countOn) (readBase 10 count) place
  | '#' :: count => follow wanted withCode (readBase 10 count) place
  | shared :: rest =>
    if entry.getLast? = some ':' then .ok ⟨readBase 16 entry.dropLast, place.words⟩
    else
      let own := if rest.isEmpty then [] else cutAt ' ' rest
      let words := place.words.take (sharedCount shared) ++ own
      if words = wanted then .error place.code else .ok ⟨place.code + 1, words⟩
  | [] => .ok place

def entries (part : String) : List (List Char) :=
  (cutAt ',' part.toList).map (·.dropWhile fun c => c = ' ' || c = '\n')

def findIn (wanted : Words) (part : String) : Option Nat :=
  match (entries part).foldlM (step wanted) ⟨0, []⟩ with
  | .ok _ => none
  | .error code => some code

def findOther (wanted : List Char) : Option Nat :=
  (entries CharacterNameTable.others).findSome? fun entry =>
    match cutAt '=' entry with
    | [code, name] => if name = wanted then some (readBase 16 code) else none
    | _ => none

def findListed (name : List Char) : Option Nat :=
  let wanted := name.map Char.toUpper
  (CharacterNameTable.parts.findSome? (findIn (cutAt ' ' wanted))).or (findOther wanted)

def after? (beginning : String) (name : List Char) : Option (List Char) :=
  if beginning.toList.isPrefixOf name then some (name.drop beginning.length) else none

def ideographs : List (Nat × Nat) :=
  [(0x3400, 0x4dbf), (0x4e00, 0x9fff), (0x20000, 0x2a6df), (0x2a700, 0x2b738), (0x2b740, 0x2b81d),
    (0x2b820, 0x2cea1), (0x2ceb0, 0x2ebe0), (0x30000, 0x3134a)]

def isCodeDigit (c : Char) : Bool := c.isDigit || decide ('A' ≤ c ∧ c ≤ 'F')

def ideograph? (digits : List Char) : Option Nat :=
  let code := readBase 16 digits
  if (digits.length = 4 || digits.length = 5) && digits.all isCodeDigit
      && ideographs.any (fun (low, high) => low ≤ code && code ≤ high)
  then some code else none

def leads : List String :=
  ["G", "GG", "N", "D", "DD", "R", "M", "B", "BB", "S", "SS", "", "J", "JJ", "C", "K", "T",
    "P", "H"]

def vowels : List String :=
  ["A", "AE", "YA", "YAE", "EO", "E", "YEO", "YE", "O", "WA", "WAE", "OE", "YO", "U", "WEO", "WE",
    "WI", "YU", "EU", "YI", "I"]

def tails : List String :=
  ["", "G", "GG", "GS", "N", "NJ", "NH", "D", "L", "LG", "LM", "LB", "LS", "LT", "LP", "LH", "M",
    "B", "BS", "S", "SS", "NG", "J", "C", "K", "T", "P", "H"]

def sound? (sounds : List String) (text : List Char) : Option (Nat × List Char) :=
  let found := sounds.zipIdx.filter fun (sound, _) => sound.toList.isPrefixOf text
  (found.foldl (fun (best : Option (String × Nat)) next =>
    match best with
    | some b => if b.1.length < next.1.length then some next else some b
    | none => some next) none).map fun (sound, i) => (i, text.drop sound.length)

def syllable? (text : List Char) : Option Nat := do
  let (lead, text) ← sound? leads text
  let (vowel, text) ← sound? vowels text
  let (tail, text) ← sound? tails text
  if text.isEmpty then return 0xac00 + (lead * vowels.length + vowel) * tails.length + tail
  else none

def code? (name : List Char) : Option Nat :=
  match after? "HANGUL SYLLABLE " name, after? "CJK UNIFIED IDEOGRAPH-" name with
  | some sounds, _ => syllable? sounds
  | none, some digits => ideograph? digits
  | none, none => findListed name

end CharacterName

def characterNamed? (name : List Char) : Option Char := (CharacterName.code? name).map Char.ofNat

end EndpointCatalog.Text
