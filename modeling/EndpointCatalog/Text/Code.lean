import EndpointCatalog.Text.CodeRanges

namespace EndpointCatalog.Text

-- A half of a surrogate pair has a code, but it is no character, and no encoding of texts takes it.
inductive Code where
  | char (c : Char)
  | half (unit : Fin 0x800)
  deriving DecidableEq, Repr, Inhabited

abbrev Codes := List Code

namespace Code

def toNat : Code → Nat
  | .char c => c.toNat
  | .half unit => 0xd800 + unit

def ofNat (code : Nat) : Code :=
  if within : 0xd800 ≤ code ∧ code < 0xe000 then .half ⟨code - 0xd800, by omega⟩
  else .char (Char.ofNat code)

def isHalf : Code → Bool
  | .char _ => false
  | .half _ => true

def is (holds : Char → Bool) : Code → Bool
  | .char c => holds c
  | .half _ => false

instance : LT Code := ⟨fun a b => a.toNat < b.toNat⟩

instance : DecidableLT Code := fun a b => inferInstanceAs (Decidable (a.toNat < b.toNat))

end Code

def pairChar (high low : Nat) : Char :=
  Char.ofNat (0x10000 + (high - 0xd800) * 0x400 + (low - 0xdc00))

def surrogatePair (c : Char) : Nat × Nat :=
  let offset := c.toNat - 0x10000
  (0xd800 + offset / 0x400, 0xdc00 + offset % 0x400)

-- Two units of sixteen bits may spell one character.
inductive Spelled where
  | plain (code : Code)
  | unit (value : Nat)

def isHighSurrogate (unit : Nat) : Bool := decide (0xd800 ≤ unit ∧ unit < 0xdc00)

def isLowSurrogate (unit : Nat) : Bool := decide (0xdc00 ≤ unit ∧ unit < 0xe000)

def joinUnits : List Spelled → Codes
  | [] => []
  | .plain code :: rest => code :: joinUnits rest
  | .unit high :: .unit low :: rest =>
    if isHighSurrogate high && isLowSurrogate low then .char (pairChar high low) :: joinUnits rest
    else .ofNat high :: joinUnits (.unit low :: rest)
  | .unit value :: rest => .ofNat value :: joinUnits rest

def codes (s : String) : Codes := s.toList.map .char

instance : Coe String Codes := ⟨codes⟩

@[simp]
theorem codes_inj {s t : String} : codes s = codes t ↔ s = t := by
  rw [codes, codes, List.map_inj_right fun _ _ => Code.char.inj, String.toList_inj]

@[simp]
theorem codes_eq_nil {s : String} : codes s = [] ↔ s = "" := codes_inj (t := "")

-- The codes `start` up to `stop`, of which `code` is the first, are halves of surrogate pairs.
structure EncodeError where
  code : Nat
  start : Nat
  stop : Nat
  deriving DecidableEq, Repr

def EncodeError.message (e : EncodeError) : String :=
  let refused :=
    if e.stop = e.start + 1 then
      let shown := String.ofList ('\\' :: 'u' :: hexDigits 4 e.code)
      s!"character '{shown}' in position {e.start}"
    else s!"characters in position {e.start}-{e.stop - 1}"
  s!"'utf-8' codec can't encode {refused}: surrogates not allowed"

def charsFrom (place : Nat) : Codes → Except EncodeError (List Char)
  | [] => .ok []
  | .char c :: rest => (charsFrom (place + 1) rest).map (c :: ·)
  | .half unit :: rest =>
    .error ⟨0xd800 + unit, place, place + 1 + (rest.takeWhile Code.isHalf).length⟩

def stringOf (text : Codes) : Except EncodeError String := (charsFrom 0 text).map String.ofList

def encode (text : Codes) : Except EncodeError (List UInt8) :=
  (stringOf text).map (·.toUTF8.toList)

theorem charsFrom_map (place : Nat) (cs : List Char) :
    charsFrom place (cs.map .char) = .ok cs := by
  induction cs generalizing place with
  | nil => rfl
  | cons c cs ih => simp [charsFrom, ih, Except.map]

@[simp]
theorem stringOf_codes (s : String) : stringOf (codes s) = .ok s := by
  rw [stringOf, codes, charsFrom_map]
  exact congrArg Except.ok String.ofList_toList

theorem charsFrom_ok {place : Nat} {text : Codes} {cs : List Char}
    (whole : charsFrom place text = .ok cs) : text = cs.map .char := by
  induction text generalizing place cs with
  | nil =>
    cases whole
    rfl
  | cons code text ih =>
    cases code with
    | half unit => cases whole
    | char c =>
      rw [charsFrom] at whole
      cases later : charsFrom (place + 1) text with
      | error e =>
        rw [later] at whole
        cases whole
      | ok found =>
        rw [later] at whole
        cases whole
        rw [ih later, List.map_cons]

theorem stringOf_ok {text : Codes} {s : String} : stringOf text = .ok s ↔ text = codes s := by
  constructor
  · intro whole
    unfold stringOf at whole
    cases found : charsFrom 0 text with
    | error e =>
      rw [found] at whole
      cases whole
    | ok cs =>
      rw [found] at whole
      cases whole
      rw [codes, String.toList_ofList]
      exact charsFrom_ok found
  · rintro rfl
    exact stringOf_codes s

end EndpointCatalog.Text
