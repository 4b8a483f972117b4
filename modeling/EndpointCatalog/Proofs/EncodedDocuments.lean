import EndpointCatalog.Proofs.EncodedTexts
import EndpointCatalog.Proofs.WrittenDocuments

namespace EndpointCatalog.Json

open Text (Code Codes codes)

variable {limit : Option Nat} {fuel : Nat} {c : Char} {rest later : Codes} {value : Json}

-- No document has such a character outside of its strings.
def Foreign (c : Char) : Prop := c.toNat = 0 ∨ 0x80 ≤ c.toNat

instance (c : Char) : Decidable (Foreign c) := inferInstanceAs (Decidable (_ ∨ _))

theorem foreign_ne {c d : Char} (foreign : Foreign c) (native : ¬Foreign d) : c ≠ d := by
  intro same
  subst same
  exact native foreign

theorem isDigit_foreign (foreign : Foreign c) : isDigit c = false := by
  have low : ('0' : Char).toNat = 48 := rfl
  have high : ('9' : Char).toNat = 57 := rfl
  refine decide_eq_false fun between => ?_
  have above : ('0' : Char).toNat ≤ c.toNat := between.1
  have below : c.toNat ≤ ('9' : Char).toNat := between.2
  unfold Foreign at foreign
  omega

theorem isBlank_foreign (foreign : Foreign c) : (Code.char c).is isBlank = false := by
  have others : c ≠ ' ' ∧ c ≠ '\t' ∧ c ≠ '\n' ∧ c ≠ '\r' :=
    ⟨foreign_ne foreign (by decide), foreign_ne foreign (by decide),
      foreign_ne foreign (by decide), foreign_ne foreign (by decide)⟩
  simp [Code.is, isBlank, others]

theorem readWhole_foreign (foreign : Foreign c) : readWhole? (.char c :: rest) = none := by
  have other : c ≠ '0' := foreign_ne foreign (by decide)
  unfold readWhole?
  split
  · rename_i same
    cases same
    exact absurd rfl other
  · simp [spanDigits, isDigit_foreign foreign]

theorem readWord_foreign (foreign : Foreign c) : readWord? (.char c :: rest) = none := by
  have others : 'n' ≠ c ∧ 't' ≠ c ∧ 'f' ≠ c ∧ 'N' ≠ c ∧ 'I' ≠ c ∧ '-' ≠ c := by
    refine ⟨?_, ?_, ?_, ?_, ?_, ?_⟩ <;> exact (foreign_ne foreign (by decide)).symm
  simp [readWord?, words, after?, codes, others]

theorem readValue_foreign (foreign : Foreign c) :
    readValue limit fuel (.char c :: rest) = stop .value (.char c :: rest) := by
  cases fuel with
  | zero => rfl
  | succ fuel =>
    have others : c ≠ '"' ∧ c ≠ '[' ∧ c ≠ '\x7b' ∧ c ≠ '-' := by
      refine ⟨?_, ?_, ?_, ?_⟩ <;> exact foreign_ne foreign (by decide)
    obtain ⟨quote, bracket, brace, dash⟩ := others
    rw [readValue]
    · unfold readPlain
      rw [readWord_foreign foreign]
      dsimp only
      split
      · rename_i same
        cases same
        exact absurd rfl dash
      · rw [readNumber, readWhole_foreign foreign]
    all_goals simp [quote, bracket, brace]

def zeroCode : Code := .char (Char.ofNat 0)

theorem foreign_zero : Foreign (Char.ofNat 0) := .inl rfl

section Zero

theorem readSpelled_zero (opening : Codes) :
    readSpelled opening (zeroCode :: rest) = stop .controlCharacter (zeroCode :: rest) := by
  rw [readSpelled]
  · rfl
  all_goals simp [zeroCode]

theorem readItems_zero :
    readItems limit fuel (zeroCode :: rest) = stop .value (zeroCode :: rest) := by
  cases fuel with
  | zero => rfl
  | succ fuel =>
    rw [readItems, zeroCode, readValue_foreign foreign_zero]
    rfl

theorem readMembers_zero (limit : Option Nat) (fuel : Nat) (done : List (Codes × Json))
    (rest : Codes) :
    ∃ cause, readMembers limit fuel done (zeroCode :: rest) = stop cause (zeroCode :: rest) := by
  cases fuel with
  | zero => exact ⟨_, rfl⟩
  | succ fuel =>
    refine ⟨.memberName, ?_⟩
    rw [readMembers]
    simp [zeroCode]

theorem readWhole_zero (whole : List Char) (afterWhole : Codes)
    (found : readWhole? (.char c :: zeroCode :: rest) = some (whole, afterWhole)) :
    afterWhole = zeroCode :: rest := by
  unfold readWhole? at found
  split at found
  · rename_i same
    cases same
    cases found
    rfl
  · by_cases digit : isDigit c = true
    · simp [spanDigits, zeroCode, digit, isDigit_foreign foreign_zero] at found
      exact found.2.symm
    · simp [spanDigits, digit] at found

theorem readNumber_zero (start : Codes) (negative : Bool)
    (read : readNumber limit start negative (.char c :: zeroCode :: rest) = .ok (value, later)) :
    later = zeroCode :: rest := by
  unfold readNumber at read
  split at read
  · cases read
  · rename_i whole afterWhole found
    have same := readWhole_zero whole afterWhole found
    subst same
    have fraction : readFraction (zeroCode :: rest) = ([], zeroCode :: rest) := rfl
    have exponent : readExponent? (zeroCode :: rest) = none := rfl
    simp only [fraction, exponent, List.isEmpty_nil, Option.isNone_none, Bool.and_self, if_true]
      at read
    split at read <;> cases read
    rfl

theorem readWord_zero : readWord? (.char c :: zeroCode :: rest) = none := by
  simp [readWord?, words, after?, codes, zeroCode]

theorem skipBlanks_zero : skipBlanks (zeroCode :: rest) = zeroCode :: rest := rfl

theorem readValue_zero
    (read : readValue limit fuel (.char c :: zeroCode :: rest) = .ok (value, later)) :
    later = zeroCode :: rest := by
  cases fuel with
  | zero => cases read
  | succ fuel =>
    unfold readValue at read
    split at read
    · rename_i same
      cases same
    · rename_i text same
      cases same
      rw [readString, readSpelled_zero] at read
      cases read
    · rename_i text same
      cases same
      rw [skipBlanks_zero] at read
      split at read
      · rename_i closed
        cases closed
      · rw [readItems_zero] at read
        cases read
    · rename_i text same
      cases same
      rw [skipBlanks_zero] at read
      split at read
      · rename_i closed
        cases closed
      · obtain ⟨cause, stopped⟩ := readMembers_zero limit fuel [] rest
        rw [stopped] at read
        cases read
    · unfold readPlain at read
      rw [readWord_zero] at read
      dsimp only at read
      split at read
      · rename_i same
        cases same
        rw [readNumber, zeroCode, readWhole_foreign foreign_zero] at read
        cases read
      · exact readNumber_zero _ _ read

end Zero

theorem readWithin_parts {said : Codes} (read : readWithin limit said = .ok value) :
    ∃ later, readValue limit (said.length + 1) (skipBlanks said) = .ok (value, later) ∧
      skipBlanks later = [] := by
  unfold readWithin at read
  split at read
  · cases read
  · split at read
    · cases read
    · rename_i found later parsed
      split at read
      · rename_i ended
        cases read
        exact ⟨later, parsed, ended⟩
      · cases read

-- The first character of a document is one of ASCII, and the second is not zero.
theorem readWithin_telling {said : String} (read : readWithin limit said = .ok value) :
    Text.Telling said.toList := by
  obtain ⟨later, parsed, ended⟩ := readWithin_parts read
  rw [codes] at parsed
  cases text : said.toList with
  | nil => trivial
  | cons c rest =>
    rw [text, List.map_cons] at parsed
    have native : ¬Foreign c := by
      intro foreign
      rw [skipBlanks_visible (isBlank_foreign foreign), readValue_foreign foreign] at parsed
      cases parsed
    unfold Foreign at native
    refine ⟨by omega, fun d first empty => ?_⟩
    have same : d = Char.ofNat 0 := by
      rw [← Char.ofNat_toNat d, empty]
    subst same
    obtain ⟨tail, rfl⟩ := List.head?_eq_some_iff.mp first
    rw [List.map_cons] at parsed
    cases blank : (Code.char c).is isBlank with
    | true =>
      rw [skipBlanks, List.dropWhile_cons_of_pos blank] at parsed
      have begun : (Code.char (Char.ofNat 0) :: tail.map .char).dropWhile (·.is isBlank) =
          .char (Char.ofNat 0) :: tail.map .char := skipBlanks_zero
      rw [begun, readValue_foreign foreign_zero] at parsed
      cases parsed
    | false =>
      rw [skipBlanks_visible blank] at parsed
      have kept := readValue_zero parsed
      subst kept
      cases ended

-- A text may have its mark or not.
def Encodes (text : List Char) (content : List UInt8) : Prop :=
  ∃ encoding : Text.Encoding,
    content = encoding.write text ∨ content = encoding.mark ++ encoding.write text

theorem decode_document {said : String} {content : List UInt8}
    (read : readWithin limit said = .ok value) (encodes : Encodes said.toList content) :
    Text.decode content = .ok (codes said) := by
  have telling := readWithin_telling read
  obtain ⟨encoding, rfl | rfl⟩ := encodes
  · exact Text.decode_unmarked encoding _ telling
  · refine Text.decode_marked encoding _ fun c first => ?_
    obtain ⟨rest, begun⟩ := List.head?_eq_some_iff.mp first
    rw [begun] at telling
    exact telling.1.1

end EndpointCatalog.Json
