import EndpointCatalog.Json.Reader
import EndpointCatalog.Json.Writer
import Mathlib.Data.List.Chain
import Mathlib.Data.List.Forall2
import Mathlib.Tactic.SplitIfs

namespace EndpointCatalog.Text

theorem hexDigit_hexChar : ∀ digit < 16, hexDigit? (hexChar digit) = some digit := by decide

theorem char_whole (c : Char) :
    isHighSurrogate c.toNat = false ∧ isLowSurrogate c.toNat = false := by
  have valid : c.toNat < 0xd800 ∨ 0xdfff < c.toNat ∧ c.toNat < 0x110000 := c.valid
  simp only [isHighSurrogate, isLowSurrogate, decide_eq_false_iff_not]
  omega

theorem surrogatePair_units {c : Char} (wide : 0x10000 ≤ c.toNat) :
    isHighSurrogate (surrogatePair c).1 = true ∧ isLowSurrogate (surrogatePair c).2 = true := by
  have valid : c.toNat < 0xd800 ∨ 0xdfff < c.toNat ∧ c.toNat < 0x110000 := c.valid
  refine ⟨decide_eq_true ?_, decide_eq_true ?_⟩
  all_goals
    simp only [surrogatePair]
    omega

theorem high_not_low {unit : Nat} (high : isHighSurrogate unit = true) :
    isLowSurrogate unit = false := by
  simp only [isHighSurrogate, isLowSurrogate, decide_eq_true_iff, decide_eq_false_iff_not] at *
  omega

theorem ofNat_toNat (code : Code) : Code.ofNat code.toNat = code := by
  cases code with
  | char c =>
    have valid : c.toNat < 0xd800 ∨ 0xdfff < c.toNat ∧ c.toNat < 0x110000 := c.valid
    rw [Code.toNat, Code.ofNat, dif_neg (by omega), Char.ofNat_toNat]
  | half unit =>
    have inside : (unit : Nat) < 0x800 := unit.isLt
    rw [Code.toNat, Code.ofNat, dif_pos (by omega)]
    exact congrArg Code.half (Fin.ext (by simp))

-- Nothing in a text is read as one character although it is two halves of a pair.
def Unpaired (text : Codes) : Prop :=
  List.IsChain (fun a b => ¬ (isHighSurrogate a.toNat = true ∧ isLowSurrogate b.toNat = true)) text

theorem joinUnits_unit {value : Nat} {later : List Spelled}
    (apart : isHighSurrogate value = true →
      ∀ low tail, later = .unit low :: tail → isLowSurrogate low = false) :
    joinUnits (.unit value :: later) = .ofNat value :: joinUnits later := by
  cases later with
  | nil => simp [joinUnits]
  | cons next tail =>
    cases next with
    | plain code => simp [joinUnits]
    | unit low =>
      cases high : isHighSurrogate value with
      | false => simp [joinUnits, high]
      | true => simp [joinUnits, apart high low tail rfl]

theorem joinUnits_pair {c : Char} (wide : 0x10000 ≤ c.toNat) (later : List Spelled) :
    joinUnits (.unit (surrogatePair c).1 :: .unit (surrogatePair c).2 :: later) =
      .char c :: joinUnits later := by
  have valid : c.toNat < 0xd800 ∨ 0xdfff < c.toNat ∧ c.toNat < 0x110000 := c.valid
  obtain ⟨high, low⟩ := surrogatePair_units wide
  have parts : 0x10000 + ((surrogatePair c).1 - 0xd800) * 0x400 + ((surrogatePair c).2 - 0xdc00) =
      c.toNat := by
    simp only [surrogatePair]
    omega
  simp [joinUnits, high, low, pairChar, parts]

end EndpointCatalog.Text

namespace EndpointCatalog.Json

open Text (Code Codes Spelled Unpaired hexDigits hexChar surrogatePair joinUnits)

theorem hexDigits_four (code : Nat) :
    hexDigits 4 code =
      [hexChar (code / 16 / 16 / 16 % 16), hexChar (code / 16 / 16 % 16), hexChar (code / 16 % 16),
        hexChar (code % 16)] := rfl

theorem readUnit_hexDigits (small : code < 0x10000) :
    readUnit? (.char (hexChar (code / 16 / 16 / 16 % 16))) (.char (hexChar (code / 16 / 16 % 16)))
      (.char (hexChar (code / 16 % 16))) (.char (hexChar (code % 16))) = some code := by
  have digit : ∀ n, Text.hexDigit? (hexChar (n % 16)) = some (n % 16) := fun n =>
    Text.hexDigit_hexChar _ (Nat.mod_lt _ (by decide))
  simp only [readUnit?, hexDigit?, digit, bind, Option.bind, pure, Option.some.injEq]
  omega

-- A half of a pair is a unit only where it has to be escaped.
inductive Spells (charset : Charset) : Code → List Spelled → Prop where
  | plain (code : Code) : Spells charset code [.plain code]
  | unit {code : Code} (escaped : code.isHalf = true → charset = .ascii) :
      Spells charset code [.unit code.toNat]
  | pair {c : Char} (wide : 0x10000 ≤ c.toNat) :
      Spells charset (.char c) [.unit (surrogatePair c).1, .unit (surrogatePair c).2]

variable {charset : Charset} {opening rest text : Codes} {c : Char} {code : Code}

theorem Spells.low {spelling more tail : List Spelled} {low : Nat} (spells : Spells charset code spelling)
    (front : spelling ++ more = .unit low :: tail) (lower : Text.isLowSurrogate low = true) :
    code.toNat = low := by
  cases spells with
  | plain => cases front
  | unit => exact Spelled.unit.inj (List.cons.inj front).1
  | pair wide =>
    rw [← Spelled.unit.inj (List.cons.inj front).1] at lower
    rw [Text.high_not_low (Text.surrogatePair_units wide).1] at lower
    cases lower

theorem joinUnits_spells {spellings : List (List Spelled)}
    (each : List.Forall₂ (Spells charset) text spellings)
    (apart : charset = .ascii → Unpaired text) : joinUnits spellings.flatten = text := by
  induction each with
  | nil => rfl
  | @cons code spelling text spellings first later ih =>
    have rest := ih fun ascii => (apart ascii).tail
    cases first with
    | plain => exact congrArg (code :: ·) rest
    | pair wide => exact (Text.joinUnits_pair wide _).trans (congrArg _ rest)
    | unit escaped =>
      have self : .ofNat code.toNat :: joinUnits spellings.flatten = code :: text := by
        rw [Text.ofNat_toNat, rest]
      refine (Text.joinUnits_unit ?_).trans self
      intro high low tail front
      cases later with
      | nil => cases front
      | @cons next _ _ _ second _ =>
        have half : code.isHalf = true := by
          cases code with
          | half unit => rfl
          | char c =>
            rw [Code.toNat, (Text.char_whole c).1] at high
            cases high
        have chain : Unpaired (code :: next :: _) := apart (escaped half)
        cases lower : Text.isLowSurrogate low with
        | false => rfl
        | true =>
          rw [← second.low front lower] at lower
          exact absurd ⟨high, lower⟩ (List.isChain_cons_cons.mp chain).1

def ahead (spelling : List Spelled) (result : Except Fault (List Spelled × Codes)) :
    Except Fault (List Spelled × Codes) :=
  result.map fun (later, rest) => (spelling ++ later, rest)

theorem ahead_ahead (first second : List Spelled) (result : Except Fault (List Spelled × Codes)) :
    ahead first (ahead second result) = ahead (first ++ second) result := by
  cases result <;> simp [ahead, Except.map]

theorem readSpelled_simple {letter : Char} (simple : simpleEscape? (.char letter) = some c) :
    readSpelled opening (.char '\\' :: .char letter :: rest) =
      ahead [.plain (.char c)] (readSpelled opening rest) := by
  have other : letter ≠ 'u' := by
    rintro rfl
    cases simple
  rw [readSpelled]
  · simp only [simple]
    cases readSpelled opening rest <;> rfl
  all_goals simp [other]

theorem readSpelled_unicode {unit : Nat} (small : unit < 0x10000) (more : rest ≠ []) :
    readSpelled opening ((unicodeEscape unit).map .char ++ rest) =
      ahead [.unit unit] (readSpelled opening rest) := by
  obtain ⟨next, tail, rfl⟩ := List.exists_cons_of_ne_nil more
  simp only [unicodeEscape, hexDigits_four, List.map_cons, List.map_nil, List.cons_append,
    List.nil_append, readSpelled, readUnit_hexDigits small]
  cases readSpelled opening (next :: tail) <;> rfl

theorem readSpelled_plain (visible : 0x20 ≤ code.toNat) (unquoted : code ≠ .char '"')
    (unescaped : code ≠ .char '\\') :
    readSpelled opening (code :: rest) = ahead [.plain code] (readSpelled opening rest) := by
  have shown : ¬ code.toNat < 0x20 := by omega
  rw [readSpelled.eq_def]
  simp only [shown]
  cases readSpelled opening rest <;> rfl

theorem readSpelled_wide (more : rest ≠ []) :
    ∃ spelling, Spells charset (.char c) spelling ∧
      readSpelled opening ((escapeWide c).map .char ++ rest) =
        ahead spelling (readSpelled opening rest) := by
  have valid : c.toNat < 0xd800 ∨ 0xdfff < c.toNat ∧ c.toNat < 0x110000 := c.valid
  unfold escapeWide
  by_cases narrow : c.toNat < 0x10000
  · rw [if_pos narrow]
    exact ⟨_, .unit nofun, readSpelled_unicode narrow more⟩
  · refine ⟨_, .pair (by omega), ?_⟩
    rw [if_neg narrow]
    have high : (surrogatePair c).1 < 0x10000 := by
      simp only [surrogatePair]
      omega
    have low : (surrogatePair c).2 < 0x10000 := by
      simp only [surrogatePair]
      omega
    rw [List.map_append, List.append_assoc, readSpelled_unicode high (by simp [unicodeEscape]),
      readSpelled_unicode low more, ahead_ahead]
    rfl

-- A code behind the one that is read is asked for because an escape is only taken when the text goes
-- on.
theorem readSpelled_escapeChar (more : rest ≠ []) :
    ∃ spelling, Spells charset (.char c) spelling ∧
      readSpelled opening ((escapeChar charset c).map .char ++ rest) =
        ahead spelling (readSpelled opening rest) := by
  rw [escapeChar]
  split_ifs with quote backslash newline carriage tab backspace feed control
  iterate 5
    · subst c
      exact ⟨_, .plain _, readSpelled_simple rfl⟩
  · obtain rfl : c = '\x08' := Char.toNat_inj.mp backspace
    exact ⟨_, .plain _, readSpelled_simple rfl⟩
  · obtain rfl : c = '\x0c' := Char.toNat_inj.mp feed
    exact ⟨_, .plain _, readSpelled_simple rfl⟩
  · exact ⟨_, .unit nofun, readSpelled_unicode (by omega) more⟩
  · exact readSpelled_wide more
  · have visible : 0x20 ≤ (Code.char c).toNat := by
      simp only [Code.toNat]
      omega
    exact ⟨_, .plain _, readSpelled_plain visible (by simpa using quote) (by simpa using backslash)⟩

theorem readSpelled_escapeCode (more : rest ≠ []) :
    ∃ spelling, Spells charset code spelling ∧
      readSpelled opening (escapeCode charset code ++ rest) =
        ahead spelling (readSpelled opening rest) := by
  cases code with
  | char c => exact readSpelled_escapeChar more
  | half unit =>
    have inside : (unit : Nat) < 0x800 := unit.isLt
    rw [escapeCode]
    split
    · rename_i ascii
      exact ⟨_, .unit fun _ => ascii, readSpelled_unicode (by omega) more⟩
    · have visible : 0x20 ≤ (Code.half unit).toNat := by
        simp only [Code.toNat]
        omega
      exact ⟨_, .plain _, readSpelled_plain visible (by simp) (by simp)⟩

theorem readSpelled_written (charset : Charset) (opening text rest : Codes) :
    ∃ spellings, List.Forall₂ (Spells charset) text spellings ∧
      readSpelled opening (text.flatMap (escapeCode charset) ++ .char '"' :: rest) =
        .ok (spellings.flatten, rest) := by
  induction text with
  | nil => exact ⟨[], .nil, rfl⟩
  | cons code text ih =>
    obtain ⟨spellings, each, later⟩ := ih
    obtain ⟨spelling, spells, first⟩ := @readSpelled_escapeCode charset opening
      (text.flatMap (escapeCode charset) ++ .char '"' :: rest) code (by simp)
    refine ⟨spelling :: spellings, .cons spells each, ?_⟩
    rw [List.flatMap_cons, List.append_assoc, first, later]
    rfl

theorem readString_written (apart : charset = .ascii → Unpaired text) (rest : Codes) :
    readString opening (text.flatMap (escapeCode charset) ++ .char '"' :: rest) =
      .ok (text, rest) := by
  obtain ⟨spellings, each, read⟩ := readSpelled_written charset opening text rest
  rw [readString, read]
  exact congrArg (fun said => Except.ok (said, rest)) (joinUnits_spells each apart)

end EndpointCatalog.Json
