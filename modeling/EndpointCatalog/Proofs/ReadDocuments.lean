import EndpointCatalog.Proofs.Computable
import EndpointCatalog.Proofs.WrittenDocuments
import Mathlib.Algebra.Group.Nat.Defs

namespace EndpointCatalog.Json

open Source (bind_ok)
open Text (Code Codes Spelled Unpaired joinUnits isHighSurrogate isLowSurrogate)

variable {text rest opening : Codes} {value : Json} {limit : Option Nat}

-- A text of characters only.
def Unhalved (text : Codes) : Prop := ∀ code ∈ text, code.isHalf = false

theorem Unhalved.suffix (unhalved : Unhalved text) (inside : rest <:+ text) : Unhalved rest :=
  fun code member => unhalved code (inside.subset member)

@[simp]
theorem unhalved_nil : Unhalved [] := nofun

@[simp]
theorem unhalved_cons {code : Code} :
    Unhalved (code :: text) ↔ code.isHalf = false ∧ Unhalved text := List.forall_mem_cons

@[simp]
theorem unhalved_append : Unhalved (text ++ rest) ↔ Unhalved text ∧ Unhalved rest :=
  List.forall_mem_append

theorem unhalved_map (chars : List Char) : Unhalved (chars.map Code.char) := by
  intro code member
  obtain ⟨c, _, rfl⟩ := List.mem_map.mp member
  rfl

theorem unhalved_codes (s : String) : Unhalved (Text.codes s) := unhalved_map s.toList

theorem unhalved_string : Unhalved text ↔ ∃ s, text = Text.codes s := by
  constructor
  · intro unhalved
    induction text with
    | nil => exact ⟨"", rfl⟩
    | cons code text ih =>
      obtain ⟨head, tail⟩ := unhalved_cons.mp unhalved
      obtain ⟨s, rfl⟩ := ih tail
      cases code with
      | half unit => cases head
      | char c =>
        refine ⟨String.ofList (c :: s.toList), ?_⟩
        rw [Text.codes, Text.codes, String.toList_ofList, List.map_cons]
  · rintro ⟨s, rfl⟩
    exact unhalved_codes s

section Spelling

variable (layout : Layout)

theorem escapeCode_unhalved (code : Code) : Unhalved (escapeCode .ascii code) := by
  cases code <;> exact unhalved_map _

theorem spellString_unhalved (s : Codes) : Unhalved (spellString .ascii s) := by
  have inside : Unhalved (s.flatMap (escapeCode .ascii)) := by
    intro code member
    obtain ⟨own, _, spelled⟩ := List.mem_flatMap.mp member
    exact escapeCode_unhalved own code spelled
  simp [spellString, Code.isHalf, inside]

theorem indent_unhalved (depth : Nat) : Unhalved (indent depth) := by
  simp [indent, Unhalved, Code.isHalf]

theorem before_unhalved (depth : Nat) : Unhalved (layout.before depth) := by
  cases layout with
  | line => exact unhalved_nil
  | indented => exact indent_unhalved depth

theorem between_unhalved (depth : Nat) : Unhalved (layout.between depth) := by
  cases layout with
  | line => simp [Layout.between, Code.isHalf]
  | indented => simp [Layout.between, Code.isHalf, indent_unhalved]

mutual

-- In ASCII a document is spelled with characters only.
theorem spell_unhalved : (value : Json) → ∀ depth, Unhalved (spell .ascii layout depth value)
  | .null, _ | .bool true, _ | .bool false, _ | .int _, _ => unhalved_codes _
  | .float x, _ => by
    rw [spell]
    exact unhalved_codes _
  | .str s, _ => spellString_unhalved s
  | .arr [], _ | .obj [], _ => by simp [spell, Code.isHalf]
  | .arr (item :: items), depth => by
    simp [spell, Code.isHalf, before_unhalved, spell_unhalved item, spellItems_unhalved items]
  | .obj ((name, value) :: members), depth => by
    simp [spell, Code.isHalf, before_unhalved, colon, spellString_unhalved, spell_unhalved value,
      spellMembers_unhalved members]

theorem spellItems_unhalved : (items : List Json) → ∀ depth,
    Unhalved (spellItems .ascii layout depth items)
  | [], _ => unhalved_nil
  | item :: items, depth => by
    simp [spellItems, between_unhalved, spell_unhalved item, spellItems_unhalved items]

theorem spellMembers_unhalved : (members : List (Codes × Json)) → ∀ depth,
    Unhalved (spellMembers .ascii layout depth members)
  | [], _ => unhalved_nil
  | (name, value) :: members, depth => by
    simp [spellMembers, Code.isHalf, between_unhalved, colon, spellString_unhalved,
      spell_unhalved value, spellMembers_unhalved members]

end

end Spelling

inductive Floatless : Json → Prop where
  | null : Floatless .null
  | bool (b : Bool) : Floatless (.bool b)
  | int (n : Int) : Floatless (.int n)
  | str (s : Codes) : Floatless (.str s)
  | arr {items : List Json} (each : ∀ item ∈ items, Floatless item) : Floatless (.arr items)
  | obj {members : List (Codes × Json)} (each : ∀ member ∈ members, Floatless member.2) :
      Floatless (.obj members)

-- A number with a fraction or an exponent need not come back.
def Comes (limit : Option Nat) (value : Json) : Prop := Floatless value → Readable limit .ascii value

theorem comes_float (x : Decimal.Double) : Comes limit (.float x) := nofun

section Strings

theorem char_no_half {code : Code} (char : code.isHalf = false) :
    isHighSurrogate code.toNat = false ∧ isLowSurrogate code.toNat = false := by
  cases code with
  | half unit => cases char
  | char c => exact Text.char_whole c

theorem Unhalved.unpaired (unhalved : Unhalved text) : Unpaired text := by
  induction text with
  | nil => exact .nil
  | cons code text ih =>
    refine List.isChain_cons.mpr ⟨fun _ _ => ?_, ih (unhalved.suffix (List.suffix_cons ..))⟩
    simp [char_no_half (unhalved code (.head _))]

theorem ofNat_surrogate (value : Nat) :
    (isHighSurrogate (Code.ofNat value).toNat = true → isHighSurrogate value = true) ∧
      (isLowSurrogate (Code.ofNat value).toNat = true → isLowSurrogate value = true) := by
  by_cases within : 0xd800 ≤ value ∧ value < 0xe000
  · have same : (Code.ofNat value).toNat = value := by
      rw [Code.ofNat, dif_pos within, Code.toNat]
      exact Nat.add_sub_of_le within.1
    rw [same]
    exact ⟨id, id⟩
  · have char : (Code.ofNat value).isHalf = false := by
      rw [Code.ofNat, dif_neg within]
      rfl
    simp [char_no_half char]

-- Only a unit is joined with the one in front of it, and then it is the lower half of a pair.
theorem joinUnits_low {spelled : List Spelled}
    (plain : ∀ code, .plain code ∈ spelled → code.isHalf = false) {code : Code}
    (first : (joinUnits spelled).head? = some code) (low : isLowSurrogate code.toNat = true) :
    ∃ value tail, spelled = .unit value :: tail ∧ isLowSurrogate value = true := by
  fun_cases joinUnits spelled with
  | case1 => cases first
  | case2 own rest =>
    cases first
    rw [(char_no_half (plain code (.head _))).2] at low
    cases low
  | case3 high second rest pair =>
    simp only [joinUnits, pair, if_true, List.head?_cons, Option.some.injEq] at first
    subst first
    have low : isLowSurrogate (Text.pairChar high second).toNat = true := low
    rw [(Text.char_whole _).2] at low
    cases low
  | case4 high second rest apart =>
    simp only [joinUnits, apart] at first
    cases first
    exact ⟨high, _, rfl, (ofNat_surrogate high).2 low⟩
  | case5 value rest last =>
    have alone : joinUnits (.unit value :: rest) = .ofNat value :: joinUnits rest := by
      rw [joinUnits]
      exact last
    rw [alone] at first
    cases first
    exact ⟨value, _, rfl, (ofNat_surrogate value).2 low⟩

theorem joinUnits_unpaired {spelled : List Spelled}
    (plain : ∀ code, .plain code ∈ spelled → code.isHalf = false) :
    Unpaired (joinUnits spelled) := by
  fun_induction joinUnits spelled with
  | case1 => exact .nil
  | case2 own rest ih =>
    refine List.isChain_cons.mpr ⟨fun _ _ => ?_, ih fun code member => plain code (.tail _ member)⟩
    simp [char_no_half (plain own (.head _))]
  | case3 high second rest pair ih =>
    refine List.isChain_cons.mpr ⟨fun _ _ => ?_,
      ih fun code member => plain code (.tail _ (.tail _ member))⟩
    simp [Code.toNat, Text.char_whole]
  | case4 high second rest apart ih =>
    have later : ∀ code, .plain code ∈ Spelled.unit second :: rest → code.isHalf = false :=
      fun code member => plain code (.tail _ member)
    refine List.isChain_cons.mpr ⟨fun next first => ?_, ih later⟩
    rintro ⟨upper, lower⟩
    obtain ⟨value, tail, shape, low⟩ := joinUnits_low later first lower
    cases shape
    exact apart (by rw [(ofNat_surrogate high).1 upper, low]; rfl)
  | case5 value rest last ih =>
    have later : ∀ code, .plain code ∈ rest → code.isHalf = false :=
      fun code member => plain code (.tail _ member)
    refine List.isChain_cons.mpr ⟨fun next first => ?_, ih later⟩
    rintro ⟨-, lower⟩
    obtain ⟨second, tail, shape, -⟩ := joinUnits_low later first lower
    exact last second tail shape

theorem readSpelled_spans {spelled : List Spelled}
    (read : readSpelled opening text = .ok (spelled, rest)) (unhalved : Unhalved text) :
    (∀ code, .plain code ∈ spelled → code.isHalf = false) ∧ rest <:+ text := by
  fun_induction readSpelled opening text generalizing spelled rest with
  | case1 => cases read
  | case2 later =>
    cases read
    exact ⟨nofun, List.suffix_cons ..⟩
  | case3 => cases read
  | case4 => cases read
  | case5 a b c d next tail unit found ih =>
    obtain ⟨⟨more, later⟩, inner, made⟩ := bind_ok read
    cases made
    have inside : next :: tail <:+ .char '\\' :: .char 'u' :: a :: b :: c :: d :: next :: tail :=
      ⟨[.char '\\', .char 'u', a, b, c, d], rfl⟩
    obtain ⟨plain, behind⟩ := ih inner (unhalved.suffix inside)
    exact ⟨fun code member => plain code (by simpa using member), behind.trans inside⟩
  | case6 => cases read
  | case7 => cases read
  | case8 letter tail _ _ c found ih =>
    obtain ⟨⟨more, later⟩, inner, made⟩ := bind_ok read
    cases made
    have inside : tail <:+ .char '\\' :: letter :: tail := ⟨[.char '\\', letter], rfl⟩
    obtain ⟨plain, behind⟩ := ih inner (unhalved.suffix inside)
    refine ⟨fun code member => ?_, behind.trans inside⟩
    rcases List.mem_cons.mp member with own | member
    · cases own
      rfl
    · exact plain code member
  | case9 => cases read
  | case10 own tail _ _ _ ih =>
    obtain ⟨⟨more, later⟩, inner, made⟩ := bind_ok read
    cases made
    have inside : tail <:+ own :: tail := List.suffix_cons ..
    obtain ⟨plain, behind⟩ := ih inner (unhalved.suffix inside)
    refine ⟨fun code member => ?_, behind.trans inside⟩
    rcases List.mem_cons.mp member with same | member
    · cases same
      exact unhalved _ (.head _)
    · exact plain code member

theorem readString_unpaired {s : Codes} (read : readString opening text = .ok (s, rest))
    (unhalved : Unhalved text) : Unpaired s ∧ rest <:+ text := by
  obtain ⟨⟨spelled, later⟩, inner, made⟩ := bind_ok read
  cases made
  obtain ⟨plain, behind⟩ := readSpelled_spans inner unhalved
  exact ⟨joinUnits_unpaired plain, behind⟩

end Strings

section Numbers

theorem spanDigits_spans {digits : List Char} (spans : spanDigits text = (digits, rest)) :
    (∀ c ∈ digits, isDigit c = true) ∧ rest <:+ text := by
  fun_induction spanDigits text generalizing digits rest with
  | case1 c tail digit more later inner ih =>
    cases spans
    obtain ⟨each, behind⟩ := ih inner
    exact ⟨List.forall_mem_cons.mpr ⟨digit, each⟩, behind.trans (List.suffix_cons ..)⟩
  | case2 c tail other =>
    cases spans
    exact ⟨nofun, List.suffix_rfl⟩
  | case3 text other =>
    cases spans
    exact ⟨nofun, List.suffix_rfl⟩

theorem readWhole_spans {digits : List Char} (spans : readWhole? text = some (digits, rest)) :
    (∀ c ∈ digits, isDigit c = true) ∧ digits ≠ [] ∧ rest <:+ text := by
  unfold readWhole? at spans
  split at spans
  · cases spans
    exact ⟨List.forall_mem_singleton.mpr rfl, List.cons_ne_nil _ _, List.suffix_cons ..⟩
  · split at spans
    · cases spans
    · rename_i found
      cases spans
      obtain ⟨each, behind⟩ := spanDigits_spans found
      rename_i some
      exact ⟨each, some, behind⟩

theorem readFraction_suffix (text : Codes) : (readFraction text).2 <:+ text := by
  unfold readFraction
  split
  · split
    · exact List.suffix_rfl
    · rename_i found
      exact (spanDigits_spans found).2.trans (List.suffix_cons ..)
  · exact List.suffix_rfl

theorem readExponent_suffix (read : readExponent? text = some (power, rest)) : rest <:+ text := by
  unfold readExponent? at read
  split at read
  · rename_i e tail
    split at read
    · split at read
      rename_i negative digits signed
      have behind : digits <:+ e :: tail := by
        split at signed
        · cases signed
          exact ⟨[e, .char '-'], rfl⟩
        · cases signed
          exact ⟨[e, .char '+'], rfl⟩
        · cases signed
          exact List.suffix_cons ..
      split at read
      · cases read
      · rename_i found
        cases read
        exact (spanDigits_spans found).2.trans behind
    · cases read
  · cases read

theorem ofDigitChars_lt {digits : List Char} (each : ∀ c ∈ digits, isDigit c = true) (start : Nat) :
    Nat.ofDigitChars 10 digits start < (start + 1) * 10 ^ digits.length := by
  induction digits generalizing start with
  | nil => simp
  | cons c digits ih =>
    obtain ⟨digit, each⟩ := List.forall_mem_cons.mp each
    have small : c.toNat - '0'.toNat ≤ 9 := by
      rw [isDigit_eq, Char.isDigit_iff_toNat] at digit
      exact Nat.sub_le_of_le_add (by simpa using digit.2)
    rw [Nat.ofDigitChars_cons, List.length_cons, Nat.pow_succ]
    refine Nat.lt_of_lt_of_le (ih each _) ?_
    calc (10 * start + (c.toNat - '0'.toNat) + 1) * 10 ^ digits.length
        ≤ ((start + 1) * 10) * 10 ^ digits.length := Nat.mul_le_mul_right _ (by omega)
      _ = (start + 1) * (10 ^ digits.length * 10) := by rw [Nat.mul_assoc, Nat.mul_comm 10]

theorem digitCount_digits {digits : List Char} (each : ∀ c ∈ digits, isDigit c = true)
    (some : digits ≠ []) (negative : Bool) :
    digitCount (if negative then -(Nat.ofDigitChars 10 digits 0 : Int)
      else (Nat.ofDigitChars 10 digits 0 : Int)) ≤ digits.length := by
  have size : (if negative then -(Nat.ofDigitChars 10 digits 0 : Int)
      else (Nat.ofDigitChars 10 digits 0 : Int)).natAbs = Nat.ofDigitChars 10 digits 0 := by
    cases negative <;> simp
  rw [digitCount, size, Nat.length_toDigits_le_iff (by decide) (List.length_pos_iff.mpr some)]
  simpa using ofDigitChars_lt each 0

theorem exceeds_less {fewer count : Nat} (less : fewer ≤ count) (within : exceeds limit count = false) :
    exceeds limit fewer = false := by
  cases limit with
  | none => rfl
  | some limit =>
    simp only [exceeds, Option.any_some, decide_eq_false_iff_not] at within ⊢
    omega

theorem readNumber_comes {start : Codes} {negative : Bool}
    (read : readNumber limit start negative text = .ok (value, rest)) :
    Comes limit value ∧ rest <:+ text := by
  unfold readNumber at read
  split at read
  · cases read
  · rename_i whole afterWhole found
    obtain ⟨each, some, behind⟩ := readWhole_spans found
    have fraction := readFraction_suffix afterWhole
    simp only at read
    split at read
    · split at read
      · cases read
      · rename_i within
        cases read
        refine ⟨fun _ => .int ?_, behind⟩
        exact exceeds_less (digitCount_digits each some negative) (by simpa using within)
    · cases read
      refine ⟨comes_float _, ?_⟩
      cases exponent : readExponent? (readFraction afterWhole).2 with
      | none => exact fraction.trans behind
      | some part => exact ((readExponent_suffix exponent).trans fraction).trans behind

theorem words_come : ∀ entry ∈ words, Comes limit entry.2 := by
  simp only [words, List.forall_mem_cons]
  exact ⟨fun _ => .null, fun _ => .bool true, fun _ => .bool false, comes_float _, comes_float _,
    comes_float _, by simp⟩

theorem readPlain_comes (read : readPlain limit text = .ok (value, rest)) :
    Comes limit value ∧ rest <:+ text := by
  unfold readPlain at read
  split at read
  · rename_i found
    cases read
    obtain ⟨⟨word, spelled⟩, member, taken⟩ := List.exists_of_findSome?_eq_some found
    obtain ⟨later, cut, same⟩ := Option.map_eq_some_iff.mp taken
    cases same
    unfold after? at cut
    split at cut
    · cases cut
      exact ⟨words_come _ member, List.drop_suffix ..⟩
    · cases cut
  · split at read
    · obtain ⟨comes, behind⟩ := readNumber_comes read
      exact ⟨comes, behind.trans (List.suffix_cons ..)⟩
    · exact readNumber_comes read

end Numbers

section Values

theorem skipBlanks_suffix (text : Codes) : skipBlanks text <:+ text := List.dropWhile_suffix _

theorem skipBlanks_behind {code : Code} (met : skipBlanks text = code :: rest) : rest <:+ text :=
  (List.suffix_cons code rest).trans (met ▸ skipBlanks_suffix text)

theorem skipBlanks_within {code : Code} (met : skipBlanks text = code :: rest) :
    skipBlanks rest <:+ text := (skipBlanks_suffix rest).trans (skipBlanks_behind met)

theorem mem_put {name : Codes} {done : List (Codes × Json)} {member : Codes × Json}
    (listed : member ∈ put name value done) : member = (name, value) ∨ member ∈ done := by
  induction done with
  | nil => exact .inl (List.mem_singleton.mp listed)
  | cons first done ih =>
    obtain ⟨key, old⟩ := first
    unfold put at listed
    split at listed
    · rename_i same
      rcases List.mem_cons.mp listed with own | later
      · exact .inl (own.trans (by rw [same]))
      · exact .inr (.tail _ later)
    · rcases List.mem_cons.mp listed with own | later
      · exact .inr (own ▸ .head _)
      · exact (ih later).imp_right (.tail _)

theorem put_apart {name : Codes} {done : List (Codes × Json)} (apart : (done.map Prod.fst).Nodup) :
    ((put name value done).map Prod.fst).Nodup := by
  induction done with
  | nil => simp [put]
  | cons first done ih =>
    obtain ⟨key, old⟩ := first
    obtain ⟨fresh, apart⟩ := List.nodup_cons.mp apart
    unfold put
    split
    · exact List.nodup_cons.mpr ⟨fresh, apart⟩
    · rename_i other
      refine List.nodup_cons.mpr ⟨fun listed => ?_, ih apart⟩
      obtain ⟨member, inside, same⟩ := List.mem_map.mp listed
      rcases mem_put inside with own | there
      · exact other (same.symm.trans (by rw [own]))
      · exact fresh (same ▸ List.mem_map_of_mem there)

-- The members that are read so far.
structure MembersCome (limit : Option Nat) (members : List (Codes × Json)) : Prop where
  apart : (members.map Prod.fst).Nodup
  names : ∀ member ∈ members, Unpaired member.1
  values : ∀ member ∈ members, Comes limit member.2

theorem membersCome_nil : MembersCome limit [] :=
  ⟨.nil, List.forall_mem_nil _, List.forall_mem_nil _⟩

theorem MembersCome.put {name : Codes} {done : List (Codes × Json)} (come : MembersCome limit done)
    (named : Unpaired name) (comes : Comes limit value) : MembersCome limit (put name value done) where
  apart := put_apart come.apart
  names member listed := (mem_put listed).elim (fun own => own ▸ named) (come.names member)
  values member listed := (mem_put listed).elim (fun own => own ▸ comes) (come.values member)

theorem MembersCome.comes {members : List (Codes × Json)} (come : MembersCome limit members) :
    Comes limit (.obj members) := by
  intro floatless
  cases floatless with
  | obj each =>
    exact .obj come.apart (fun member listed _ => come.names member listed) fun member listed =>
      come.values member listed (each member listed)

theorem items_come {items : List Json} (come : ∀ item ∈ items, Comes limit item) :
    Comes limit (.arr items) := by
  intro floatless
  cases floatless with
  | arr each => exact .arr fun item listed => come item listed (each item listed)

structure ReadersCome (limit : Option Nat) (fuel : Nat) : Prop where
  value : ∀ {text value rest}, readValue limit fuel text = .ok (value, rest) → Unhalved text →
    Comes limit value ∧ rest <:+ text
  items : ∀ {text items rest}, readItems limit fuel text = .ok (items, rest) → Unhalved text →
    (∀ item ∈ items, Comes limit item) ∧ rest <:+ text
  members : ∀ {done text members rest}, readMembers limit fuel done text = .ok (members, rest) →
    Unhalved text → MembersCome limit done → MembersCome limit members ∧ rest <:+ text

variable {fuel : Nat}

theorem ReadersCome.readValue (come : ReadersCome limit fuel)
    (read : readValue limit (fuel + 1) text = .ok (value, rest)) (unhalved : Unhalved text) :
    Comes limit value ∧ rest <:+ text := by
  unfold Json.readValue at read
  split at read
  · cases read
  · rename_i later
    obtain ⟨⟨s, behind⟩, inner, made⟩ := bind_ok read
    cases made
    have inside := List.suffix_cons (Code.char '"') later
    obtain ⟨unpaired, tail⟩ := readString_unpaired inner (unhalved.suffix inside)
    exact ⟨fun _ => .str fun _ => unpaired, tail.trans inside⟩
  · rename_i later
    have inside : skipBlanks later <:+ .char '[' :: later :=
      (skipBlanks_suffix later).trans (List.suffix_cons ..)
    split at read
    · rename_i closed
      cases read
      exact ⟨items_come (by simp), (skipBlanks_behind closed).trans (List.suffix_cons ..)⟩
    · obtain ⟨⟨items, behind⟩, inner, made⟩ := bind_ok read
      cases made
      obtain ⟨each, tail⟩ := come.items inner (unhalved.suffix inside)
      exact ⟨items_come each, tail.trans inside⟩
  · rename_i later
    have inside : skipBlanks later <:+ .char '\x7b' :: later :=
      (skipBlanks_suffix later).trans (List.suffix_cons ..)
    split at read
    · rename_i closed
      cases read
      exact ⟨membersCome_nil.comes, (skipBlanks_behind closed).trans (List.suffix_cons ..)⟩
    · obtain ⟨⟨members, behind⟩, inner, made⟩ := bind_ok read
      cases made
      obtain ⟨all, tail⟩ := come.members inner (unhalved.suffix inside) membersCome_nil
      exact ⟨all.comes, tail.trans inside⟩
  · exact readPlain_comes read

theorem ReadersCome.readItems {items : List Json} (come : ReadersCome limit fuel)
    (read : readItems limit (fuel + 1) text = .ok (items, rest)) (unhalved : Unhalved text) :
    (∀ item ∈ items, Comes limit item) ∧ rest <:+ text := by
  unfold Json.readItems at read
  obtain ⟨⟨item, behind⟩, inner, made⟩ := bind_ok read
  obtain ⟨comes, inside⟩ := come.value inner unhalved
  simp only at made
  split at made
  · rename_i closed
    cases made
    exact ⟨by simpa using comes, (skipBlanks_behind closed).trans inside⟩
  · rename_i more
    have inside := (skipBlanks_within more).trans inside
    obtain ⟨⟨others, later⟩, inner, made⟩ := bind_ok made
    cases made
    obtain ⟨each, tail⟩ := come.items inner (unhalved.suffix inside)
    exact ⟨List.forall_mem_cons.mpr ⟨comes, each⟩, tail.trans inside⟩
  · cases made

theorem ReadersCome.readMembers {done members : List (Codes × Json)} (come : ReadersCome limit fuel)
    (read : readMembers limit (fuel + 1) done text = .ok (members, rest)) (unhalved : Unhalved text)
    (sofar : MembersCome limit done) : MembersCome limit members ∧ rest <:+ text := by
  unfold Json.readMembers at read
  split at read
  · rename_i later
    obtain ⟨⟨name, behind⟩, inner, made⟩ := bind_ok read
    have quoted := List.suffix_cons (Code.char '"') later
    obtain ⟨unpaired, named⟩ := readString_unpaired inner (unhalved.suffix quoted)
    simp only at made
    split at made
    · rename_i colon
      have valued := (skipBlanks_within colon).trans (named.trans quoted)
      obtain ⟨⟨value, behind⟩, inner, made⟩ := bind_ok made
      obtain ⟨comes, tail⟩ := come.value inner (unhalved.suffix valued)
      have grown := sofar.put unpaired comes
      have passed := tail.trans valued
      simp only at made
      split at made
      · rename_i closed
        cases made
        exact ⟨grown, (skipBlanks_behind closed).trans passed⟩
      · rename_i more
        have onward := (skipBlanks_within more).trans passed
        obtain ⟨all, tail⟩ := come.members made (unhalved.suffix onward) grown
        exact ⟨all, tail.trans onward⟩
      · cases made
    · cases made
  · cases read

theorem readers_come (limit : Option Nat) (fuel : Nat) : ReadersCome limit fuel := by
  induction fuel with
  | zero => exact ⟨nofun, nofun, nofun⟩
  | succ fuel ih => exact ⟨ih.readValue, ih.readItems, ih.readMembers⟩

theorem readWithin_comes {s : String} (read : readWithin limit (Text.codes s) = .ok value) :
    Comes limit value := by
  unfold readWithin at read
  split at read
  · cases read
  · split at read
    · cases read
    · rename_i found
      have inside := skipBlanks_suffix (Text.codes s)
      obtain ⟨comes, -⟩ :=
        (readers_come limit _).value found ((unhalved_codes s).suffix inside)
      split at read
      · cases read
        exact comes
      · cases read

end Values

end EndpointCatalog.Json
