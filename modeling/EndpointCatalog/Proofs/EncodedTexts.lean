import EndpointCatalog.Proofs.WrittenStrings
import EndpointCatalog.Text.Encoding

namespace EndpointCatalog.Text

section Places

def lowFirst : Nat → Nat → List UInt8
  | 0, _ => []
  | count + 1, code => UInt8.ofNat code :: lowFirst count (code / 256)

def spread (bigEndian : Bool) (count code : Nat) : List UInt8 :=
  if bigEndian then (lowFirst count code).reverse else lowFirst count code

theorem foldr_lowFirst (small : code < Nat.pow 256 count) :
    (lowFirst count code).foldr (fun byte high => high * 256 + byte.toNat) 0 = code := by
  induction count generalizing code with
  | zero =>
    have none_left : code = 0 := Nat.lt_one_iff.mp small
    rw [none_left]
    rfl
  | succ count ih =>
    have high : code / 256 < Nat.pow 256 count :=
      Nat.div_lt_of_lt_mul (by rw [Nat.mul_comm]; exact small)
    rw [lowFirst, List.foldr_cons, ih high, UInt8.toNat_ofNat']
    omega

theorem joinBytes_spread (bigEndian : Bool) (small : code < Nat.pow 256 count) :
    joinBytes bigEndian (spread bigEndian count code) = code := by
  have turned : (if bigEndian then spread bigEndian count code
      else (spread bigEndian count code).reverse) = (lowFirst count code).reverse := by
    cases bigEndian <;> simp [spread]
  rw [joinBytes, turned, List.foldl_reverse]
  exact foldr_lowFirst small

theorem spread_two (bigEndian : Bool) (code : Nat) :
    ∃ a b, spread bigEndian 2 code = [a, b] := by
  cases bigEndian <;> exact ⟨_, _, rfl⟩

theorem spread_four (bigEndian : Bool) (code : Nat) :
    ∃ a b c d, spread bigEndian 4 code = [a, b, c, d] := by
  cases bigEndian <;> exact ⟨_, _, _, _, rfl⟩

theorem unitsFrom_spread (bigEndian : Bool) (place : Nat) (units : List Nat)
    (small : ∀ unit ∈ units, unit < 0x10000) :
    unitsFrom bigEndian place (units.flatMap (spread bigEndian 2)) = .ok units := by
  induction units generalizing place with
  | nil => rfl
  | cons unit rest ih =>
    obtain ⟨a, b, form⟩ := spread_two bigEndian unit
    have joined : joinBytes bigEndian (spread bigEndian 2 unit) = unit :=
      joinBytes_spread bigEndian (small unit List.mem_cons_self)
    rw [form] at joined
    rw [List.flatMap_cons, form, List.cons_append, List.cons_append, List.nil_append, unitsFrom,
      ih _ fun other member => small other (List.mem_cons_of_mem unit member), joined]
    rfl

theorem codesFrom_spread (bigEndian : Bool) (place : Nat) (codes : List Nat)
    (small : ∀ code ∈ codes, code < 0x110000) :
    codesFrom bigEndian place (codes.flatMap (spread bigEndian 4)) = .ok codes := by
  induction codes generalizing place with
  | nil => rfl
  | cons code rest ih =>
    obtain ⟨a, b, c, d, form⟩ := spread_four bigEndian code
    have inside : code < 0x110000 := small code List.mem_cons_self
    have joined : joinBytes bigEndian (spread bigEndian 4 code) = code :=
      joinBytes_spread bigEndian (Nat.lt_trans inside (by decide))
    rw [form] at joined
    rw [List.flatMap_cons, form]
    simp only [List.cons_append, List.nil_append, codesFrom, joined, if_pos inside]
    rw [ih _ fun other member => small other (List.mem_cons_of_mem code member)]
    rfl

end Places

section Utf8

variable {first byte low high : UInt8} {start code owed place : Nat} {rest : List UInt8} {α : Type}
  {passes : Bool} {make : Nat → α}

theorem ofNat_ne {another : Nat} (inside : code < 256) (apart : code ≠ another)
    (within : another < 256) : UInt8.ofNat code ≠ UInt8.ofNat another := by
  intro same
  have level := congrArg UInt8.toNat same
  rw [UInt8.toNat_ofNat', UInt8.toNat_ofNat'] at level
  omega

def behind (part : Nat) : UInt8 := UInt8.ofNat (part % 64 + 0x80)

theorem behind_toNat (part : Nat) : (behind part).toNat = part % 64 + 0x80 := by
  rw [behind, UInt8.toNat_ofNat']
  omega

theorem behind_within (part : Nat) : 0x80 ≤ behind part ∧ behind part ≤ 0xbf := by
  simp only [UInt8.le_iff_toNat_le, behind_toNat, UInt8.reduceToNat]
  omega

inductive Utf8Form (c : Char) : List UInt8 → Prop where
  | one (below : c.toNat < 0x80) : Utf8Form c [UInt8.ofNat c.toNat]
  | two (above : 0x80 ≤ c.toNat) (below : c.toNat < 0x800) :
    Utf8Form c [UInt8.ofNat (c.toNat / 64 + 0xc0), behind c.toNat]
  | three (above : 0x800 ≤ c.toNat) (below : c.toNat < 0x10000)
      (whole : c.toNat < 0xd800 ∨ 0xdfff < c.toNat) :
    Utf8Form c [UInt8.ofNat (c.toNat / 4096 + 0xe0), behind (c.toNat / 64), behind c.toNat]
  | four (above : 0x10000 ≤ c.toNat) (below : c.toNat < 0x110000) :
    Utf8Form c [UInt8.ofNat (c.toNat / 262144 + 0xf0), behind (c.toNat / 4096),
      behind (c.toNat / 64), behind c.toNat]

theorem char_range (c : Char) :
    c.toNat < 0xd800 ∨ 0xdfff < c.toNat ∧ c.toNat < 0x110000 := c.valid

theorem utf8_form (c : Char) : Utf8Form c (String.utf8EncodeChar c) := by
  have valid := char_range c
  have value : c.val.toNat = c.toNat := rfl
  unfold String.utf8EncodeChar
  simp only [value]
  split_ifs with one two three
  · exact .one (by omega)
  · rw [Nat.mod_eq_of_lt (show c.toNat / 64 < 0x20 by omega)]
    exact .two (by omega) (by omega)
  · rw [Nat.mod_eq_of_lt (show c.toNat / 4096 < 0x10 by omega)]
    exact .three (by omega) (by omega) (by omega)
  · rw [Nat.mod_eq_of_lt (show c.toNat / 262144 < 0x08 by omega)]
    exact .four (by omega) (by omega)

theorem decodeFrom_first (owes : following? passes byte = some (owed + 1, low, high)) :
    decodeFrom passes make place none (byte :: rest) =
      decodeFrom passes make (place + 1)
        (some ⟨byte, place, leadingBits byte (owed + 1), owed + 1, low, high⟩) rest := by
  simp only [decodeFrom, owes]

theorem decodeFrom_more (part : Nat) (inside : low ≤ behind part ∧ behind part ≤ high) :
    decodeFrom passes make place (some ⟨first, start, code, owed + 2, low, high⟩)
        (behind part :: rest) =
      decodeFrom passes make (place + 1)
        (some ⟨first, start, code * 64 + part % 64, owed + 1, 0x80, 0xbf⟩) rest := by
  have bits : (behind part).toNat % 64 = part % 64 := by
    rw [behind_toNat]
    omega
  simp [decodeFrom, inside, bits]

theorem decodeFrom_last (part : Nat) (inside : low ≤ behind part ∧ behind part ≤ high)
    (c : Char) (whole : code * 64 + part % 64 = c.toNat) :
    decodeFrom passes make place (some ⟨first, start, code, 1, low, high⟩) (behind part :: rest) =
      (decodeFrom passes make (place + 1) none rest).map (make c.toNat :: ·) := by
  have bits : code * 64 + (behind part).toNat % 64 = c.toNat := by
    rw [behind_toNat]
    omega
  simp [decodeFrom, inside, bits]

theorem first_one : ∀ passes, ∀ code < 0x80,
    following? passes (UInt8.ofNat code) = some (0, 0, 0) ∧ (UInt8.ofNat code).toNat = code := by
  decide

theorem first_two : ∀ passes, ∀ high < 32, 2 ≤ high →
    following? passes (UInt8.ofNat (high + 0xc0)) = some (1, 0x80, 0xbf) ∧
      leadingBits (UInt8.ofNat (high + 0xc0)) 1 = high := by decide

-- The bounds leave out shorter ways to write a character, and halves of surrogate pairs if they do
-- not pass.
theorem first_three : ∀ passes, ∀ high < 16,
    following? passes (UInt8.ofNat (high + 0xe0)) =
        some (2, if high = 0 then 0xa0 else 0x80,
          if high = 13 ∧ passes = false then 0x9f else 0xbf) ∧
      leadingBits (UInt8.ofNat (high + 0xe0)) 2 = high := by decide

theorem first_four : ∀ passes, ∀ high < 5,
    following? passes (UInt8.ofNat (high + 0xf0)) =
        some (3, if high = 0 then 0x90 else 0x80, if high = 4 then 0x8f else 0xbf) ∧
      leadingBits (UInt8.ofNat (high + 0xf0)) 3 = high := by decide

theorem decodeFrom_char (form : Utf8Form c bytes) (place : Nat) (rest : List UInt8) :
    ∃ next, decodeFrom passes make place none (bytes ++ rest) =
      (decodeFrom passes make next none rest).map (make c.toNat :: ·) := by
  cases form with
  | one below =>
    obtain ⟨alone, kept⟩ := first_one passes c.toNat below
    refine ⟨place + 1, ?_⟩
    simp only [List.cons_append, List.nil_append, decodeFrom, alone, kept]
  | two above below =>
    obtain ⟨owes, bits⟩ := first_two passes (c.toNat / 64) (by omega) (by omega)
    refine ⟨place + 1 + 1, ?_⟩
    rw [List.cons_append, decodeFrom_first owes, bits]
    exact decodeFrom_last c.toNat (behind_within _) c (by omega)
  | three above below whole =>
    obtain ⟨owes, bits⟩ := first_three passes (c.toNat / 4096) (by omega)
    refine ⟨place + 1 + 1 + 1, ?_⟩
    rw [List.cons_append, decodeFrom_first owes, bits]
    refine (decodeFrom_more (c.toNat / 64) ?_).trans ?_
    · simp only [UInt8.le_iff_toNat_le, behind_toNat]
      split_ifs <;> simp only [UInt8.reduceToNat] <;> omega
    · exact decodeFrom_last c.toNat (behind_within _) c (by omega)
  | four above below =>
    obtain ⟨owes, bits⟩ := first_four passes (c.toNat / 262144) (by omega)
    refine ⟨place + 1 + 1 + 1 + 1, ?_⟩
    rw [List.cons_append, decodeFrom_first owes, bits]
    refine (decodeFrom_more (c.toNat / 4096) ?_).trans ?_
    · simp only [UInt8.le_iff_toNat_le, behind_toNat]
      split_ifs <;> simp only [UInt8.reduceToNat] <;> omega
    · refine (decodeFrom_more (c.toNat / 64) (behind_within _)).trans ?_
      exact decodeFrom_last c.toNat (behind_within _) c (by omega)

theorem decodeFrom_text (text : List Char) (place : Nat) :
    decodeFrom passes make place none (text.flatMap String.utf8EncodeChar) =
      .ok (text.map fun c => make c.toNat) := by
  induction text generalizing place with
  | nil => rfl
  | cons c rest ih =>
    obtain ⟨next, read⟩ := decodeFrom_char (utf8_form c) place (rest.flatMap String.utf8EncodeChar)
    rw [List.flatMap_cons, read, ih]
    rfl

end Utf8

section Encodings

def unitsOf (c : Char) : List Nat :=
  if 0x10000 ≤ c.toNat then [(surrogatePair c).1, (surrogatePair c).2] else [c.toNat]

def Encoding.write : Encoding → List Char → List UInt8
  | .utf8, text => text.flatMap String.utf8EncodeChar
  | .utf16 bigEndian, text => (text.flatMap unitsOf).flatMap (spread bigEndian 2)
  | .utf32 bigEndian, text => (text.map Char.toNat).flatMap (spread bigEndian 4)

theorem units_small (c : Char) : ∀ unit ∈ unitsOf c, unit < 0x10000 := by
  have valid := char_range c
  intro unit member
  rw [unitsOf] at member
  split_ifs at member with wide
  · simp only [surrogatePair, List.mem_cons, List.not_mem_nil, or_false] at member
    omega
  · rw [List.mem_singleton] at member
    omega

theorem ofNat_char (c : Char) : Code.ofNat c.toNat = .char c := ofNat_toNat (.char c)

theorem joinUnits_text (text : List Char) :
    joinUnits ((text.flatMap unitsOf).map .unit) = text.map .char := by
  have spells : List.Forall₂ (Json.Spells .all) (text.map .char)
      (text.map fun c => (unitsOf c).map .unit) := by
    rw [List.forall₂_map_left_iff, List.forall₂_map_right_iff, List.forall₂_same]
    intro c _
    rw [unitsOf]
    split_ifs with wide
    · exact .pair wide
    · exact .unit nofun
  have flat : (text.map fun c => (unitsOf c).map Spelled.unit).flatten =
      (text.flatMap unitsOf).map .unit := by
    rw [List.map_flatMap, List.flatMap_def]
  rw [← flat]
  exact Json.joinUnits_spells spells nofun

theorem decodeAs_write (encoding : Encoding) (mark : Nat) (text : List Char) :
    decodeAs encoding mark (encoding.write text) = .ok (text.map .char) := by
  cases encoding with
  | utf8 =>
    rw [decodeAs, Encoding.write, decodeFrom_text]
    simp only [ofNat_char]
    rfl
  | utf16 bigEndian =>
    have small : ∀ unit ∈ text.flatMap unitsOf, unit < 0x10000 := by
      intro unit member
      obtain ⟨c, -, among⟩ := List.mem_flatMap.mp member
      exact units_small c unit among
    rw [decodeAs, Encoding.write, unitsFrom_spread bigEndian mark _ small]
    exact congrArg _ (joinUnits_text text)
  | utf32 bigEndian =>
    have small : ∀ code ∈ text.map Char.toNat, code < 0x110000 := by
      intro code member
      obtain ⟨c, -, rfl⟩ := List.mem_map.mp member
      have valid := char_range c
      omega
    rw [decodeAs, Encoding.write, codesFrom_spread bigEndian mark _ small]
    simp [Except.map, ofNat_char]

-- The first unit of what is written of a character other than zero is not zero.
theorem units_first (c : Char) (full : c.toNat ≠ 0) :
    ∃ unit units, unitsOf c = unit :: units ∧ unit ≠ 0 := by
  rw [unitsOf]
  split_ifs with wide
  · refine ⟨_, _, rfl, ?_⟩
    simp only [surrogatePair]
    omega
  · exact ⟨_, _, rfl, full⟩

theorem ofNat_full (inside : code < 256) (full : code ≠ 0) : UInt8.ofNat code ≠ 0 :=
  ofNat_ne inside full (by decide)

theorem utf8_first (form : Utf8Form c bytes) (full : c.toNat ≠ 0) :
    ∃ byte tail, bytes = byte :: tail ∧ byte ≠ 0 := by
  cases form with
  | one below => exact ⟨_, _, rfl, ofNat_full (by omega) full⟩
  | two above below => exact ⟨_, _, rfl, ofNat_full (by omega) (by omega)⟩
  | three above below whole => exact ⟨_, _, rfl, ofNat_full (by omega) (by omega)⟩
  | four above below => exact ⟨_, _, rfl, ofNat_full (by omega) (by omega)⟩

-- Of the two bytes of a unit other than zero, one is not zero.
theorem spread_full (bigEndian : Bool) {unit : Nat} (small : unit < 0x10000) (full : unit ≠ 0) :
    ∃ a b, spread bigEndian 2 unit = [a, b] ∧ ¬(a = 0 ∧ b = 0) := by
  obtain ⟨a, b, form⟩ := spread_two bigEndian unit
  refine ⟨a, b, form, fun zeros => full ?_⟩
  have joined : joinBytes bigEndian (spread bigEndian 2 unit) = unit :=
    joinBytes_spread bigEndian small
  rw [form, zeros.1, zeros.2] at joined
  cases bigEndian <;> exact joined.symm

theorem utf16_first (bigEndian : Bool) (c : Char) (rest : List Char) (full : c.toNat ≠ 0) :
    ∃ a b tail, (Encoding.utf16 bigEndian).write (c :: rest) = a :: b :: tail ∧
      ¬(a = 0 ∧ b = 0) := by
  obtain ⟨unit, units, form, filled⟩ := units_first c full
  have small : unit < 0x10000 := units_small c unit (by rw [form]; exact List.mem_cons_self)
  obtain ⟨a, b, bytes, apart⟩ := spread_full bigEndian small filled
  have whole : (Encoding.utf16 bigEndian).write (c :: rest) = [a, b] ++
      (units ++ rest.flatMap (unitsOf)).flatMap (spread bigEndian 2) := by
    rw [Encoding.write, List.flatMap_cons, form, List.cons_append, List.flatMap_cons, bytes]
  exact ⟨a, b, _, whole, apart⟩

-- The mark of the one encoding begins like that of another; only a zero behind it confuses the two.
theorem markedAs_mark (encoding : Encoding) (text : List Char)
    (full : ∀ c ∈ text.head?, c.toNat ≠ 0) :
    markedAs? (encoding.mark ++ encoding.write text) = some encoding := by
  cases encoding with
  | utf8 => rfl
  | utf16 bigEndian =>
    cases bigEndian with
    | true => rfl
    | false =>
      cases text with
      | nil => rfl
      | cons c rest =>
        obtain ⟨a, b, tail, form, apart⟩ := utf16_first false c rest (full c rfl)
        have unlike : ¬(0 = a ∧ 0 = b) := fun same => apart ⟨same.1.symm, same.2.symm⟩
        rw [form]
        simp [markedAs?, encodings, Encoding.mark, List.isPrefixOf, unlike]
  | utf32 bigEndian => cases bigEndian <;> rfl

theorem decode_marked (encoding : Encoding) (text : List Char)
    (full : ∀ c ∈ text.head?, c.toNat ≠ 0) :
    decode (encoding.mark ++ encoding.write text) = .ok (text.map .char) := by
  rw [decode, markedAs_mark encoding text full]
  simp only [List.drop_left, decodeAs_write]

def Telling : List Char → Prop
  | [] => True
  | c :: rest => (c.toNat ≠ 0 ∧ c.toNat < 0x80) ∧ ∀ d ∈ rest.head?, d.toNat ≠ 0

theorem markedAs_low {byte : UInt8} (full : byte ≠ 0) (low : byte < 0x80) (bytes : List UInt8) :
    markedAs? (byte :: bytes) = none := by
  have first : byte ≠ 0xff ∧ byte ≠ 0xfe ∧ byte ≠ 0xef := by
    refine ⟨?_, ?_, ?_⟩ <;> rintro rfl <;> exact absurd low (by decide)
  obtain ⟨ff, fe, ef⟩ := first
  simp [markedAs?, encodings, Encoding.mark, List.isPrefixOf, full.symm, ff.symm, fe.symm, ef.symm]

theorem markedAs_zero {byte : UInt8} (full : byte ≠ 0) (bytes : List UInt8) :
    markedAs? (0 :: byte :: bytes) = none := by
  simp [markedAs?, encodings, Encoding.mark, List.isPrefixOf, full.symm]

variable {c : Char} {rest : List Char}

def Encoding.ascii : Encoding → UInt8 → List UInt8
  | .utf8, byte => [byte]
  | .utf16 true, byte => [0, byte]
  | .utf16 false, byte => [byte, 0]
  | .utf32 true, byte => [0, 0, 0, byte]
  | .utf32 false, byte => [byte, 0, 0, 0]

theorem write_ascii (encoding : Encoding) (low : c.toNat < 0x80) :
    encoding.write (c :: rest) =
      encoding.ascii (UInt8.ofNat c.toNat) ++ encoding.write rest := by
  have single : unitsOf c = [c.toNat] := if_neg fun wide => by omega
  have high : c.toNat / 256 = 0 := by omega
  have coded : String.utf8EncodeChar c = [UInt8.ofNat c.toNat] := if_pos (Nat.le_of_lt_succ low)
  cases encoding with
  | utf8 => simp [Encoding.write, Encoding.ascii, coded]
  | utf16 bigEndian =>
    cases bigEndian <;> simp [Encoding.write, Encoding.ascii, single, spread, lowFirst, high]
  | utf32 bigEndian =>
    cases bigEndian <;> simp [Encoding.write, Encoding.ascii, spread, lowFirst, high]

theorem encodingOfZeros_utf8 {a b : UInt8} (first : a ≠ 0) (second : b ≠ 0) (bytes : List UInt8) :
    encodingOfZeros (a :: b :: bytes) = .utf8 := by
  cases bytes with
  | nil => simp [encodingOfZeros, first, second]
  | cons c bytes =>
    cases bytes with
    | nil => rfl
    | cons d bytes => simp [encodingOfZeros, first, second]

-- The bytes of a text that begins with a character of ASCII show no mark, and their zeros tell the
-- encoding.
theorem unmarked_write (encoding : Encoding) (low : c.toNat ≠ 0 ∧ c.toNat < 0x80)
    (full : ∀ d ∈ rest.head?, d.toNat ≠ 0) :
    markedAs? (encoding.write (c :: rest)) = none ∧
      encodingOfZeros (encoding.write (c :: rest)) = encoding := by
  have head : UInt8.ofNat c.toNat ≠ 0 := ofNat_full (by omega) low.1
  have small : UInt8.ofNat c.toNat < 0x80 := by
    simp only [UInt8.lt_iff_toNat_lt, UInt8.toNat_ofNat', UInt8.reduceToNat]
    omega
  rw [write_ascii encoding low.2]
  cases encoding with
  | utf8 =>
    refine ⟨markedAs_low head small _, ?_⟩
    cases rest with
    | nil => rfl
    | cons d rest =>
      obtain ⟨byte, tail, form, filled⟩ := utf8_first (utf8_form d) (full d rfl)
      rw [Encoding.write, List.flatMap_cons, form]
      exact encodingOfZeros_utf8 head filled _
  | utf16 bigEndian =>
    cases bigEndian with
    | true =>
      refine ⟨markedAs_zero head _, ?_⟩
      cases rest with
      | nil => rfl
      | cons d rest =>
        obtain ⟨a, b, tail, form, -⟩ := utf16_first true d rest (full d rfl)
        simp [form, Encoding.ascii, encodingOfZeros, head]
    | false =>
      refine ⟨markedAs_low head small _, ?_⟩
      cases rest with
      | nil => simp [Encoding.ascii, Encoding.write, encodingOfZeros, head]
      | cons d rest =>
        obtain ⟨a, b, tail, form, apart⟩ := utf16_first false d rest (full d rfl)
        simp [form, Encoding.ascii, encodingOfZeros, head, apart]
  | utf32 bigEndian =>
    cases bigEndian with
    | true => exact ⟨rfl, rfl⟩
    | false => exact ⟨markedAs_low head small _, by simp [Encoding.ascii, encodingOfZeros, head]⟩

theorem decode_unmarked (encoding : Encoding) (text : List Char) (tells : Telling text) :
    decode (encoding.write text) = .ok (text.map .char) := by
  cases text with
  | nil => cases encoding <;> rfl
  | cons c rest =>
    obtain ⟨unmarked, told⟩ := unmarked_write encoding tells.1 tells.2
    rw [decode, unmarked]
    simp only [told, decodeAs_write]

end Encodings

end EndpointCatalog.Text
