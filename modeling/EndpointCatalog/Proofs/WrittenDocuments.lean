import EndpointCatalog.Proofs.WrittenStrings
import Mathlib.Data.List.TakeDrop

namespace EndpointCatalog.Json

open Text (Code Codes codes Unpaired)

variable {limit : Option Nat} {charset : Charset} {layout : Layout}

def closes : Codes → Bool
  | .char c :: _ => !(isDigit c || c = '.' || c = 'e' || c = 'E')
  | _ => true

theorem closes_before (layout : Layout) (depth : Nat) (rest : Codes) :
    closes (layout.before depth ++ .char ']' :: rest) = true ∧
      closes (layout.before depth ++ .char '\x7d' :: rest) = true := by
  cases layout <;> exact ⟨rfl, rfl⟩

theorem closes_between (layout : Layout) (depth : Nat) (rest : Codes) :
    closes (layout.between depth ++ rest) = true := by
  cases layout <;> rfl

section Numbers

variable {rest : Codes}

theorem codes_int (n : Int) :
    codes (toString n) =
      ((if n < 0 then ['-'] else []) ++ Nat.toDigits 10 n.natAbs).map .char := by
  refine congrArg (List.map Code.char) ?_
  cases n with
  | ofNat m =>
    have sign : ¬ Int.ofNat m < 0 := by simp
    have unsigned : (toString (Int.ofNat m)).toList = (toString m).toList := rfl
    rw [if_neg sign, unsigned, Nat.toString_eq_ofList_toDigits, String.toList_ofList]
    rfl
  | negSucc m =>
    have signed : (toString (Int.negSucc m)).toList = '-' :: (toString (m + 1)).toList :=
      String.toList_append ..
    rw [if_pos (Int.negSucc_lt_zero m), signed, Nat.toString_eq_ofList_toDigits, String.toList_ofList]
    rfl

theorem isDigit_eq (c : Char) : isDigit c = c.isDigit := by
  rw [Bool.eq_iff_iff]
  simp [isDigit, Char.isDigit, Char.le_def]

theorem toDigits_digits (n : Nat) : ∀ c ∈ Nat.toDigits 10 n, isDigit c = true := by
  intro c member
  rw [isDigit_eq]
  exact Nat.isDigit_of_mem_toDigits (by decide) (by decide) member

theorem toDigits_begins (n : Nat) :
    ∃ c tail, Nat.toDigits 10 n = c :: tail ∧ isDigit c = true ∧ (c = '0' → tail = []) := by
  induction n using Nat.strongRecOn with
  | ind n ih =>
    by_cases small : n < 10
    · have digit : ∀ n < 10, isDigit n.digitChar = true := by decide
      exact ⟨n.digitChar, [], Nat.toDigits_of_lt_base small, digit n small, fun _ => rfl⟩
    · have more := Nat.toDigits_of_base_le (b := 10) (n := n) (by decide) (by omega)
      obtain ⟨c, tail, begins, digit, alone⟩ := ih (n / 10) (by omega)
      refine ⟨c, tail ++ [(n % 10).digitChar], by rw [more, begins, List.cons_append], digit, ?_⟩
      rintro rfl
      have zero : n / 10 = 0 := by
        rw [← Nat.ofDigitChars_ten_toDigits (n := n / 10), begins, alone rfl]
        rfl
      omega

theorem spanDigits_digits {digits : List Char} (all : ∀ c ∈ digits, isDigit c = true)
    (closed : closes rest = true) : spanDigits (digits.map .char ++ rest) = (digits, rest) := by
  induction digits with
  | nil =>
    cases rest with
    | nil => rfl
    | cons code tail =>
      cases code with
      | half unit => rfl
      | char c =>
        have other : isDigit c = false := by
          cases digit : isDigit c with
          | false => rfl
          | true => simp [closes, digit] at closed
        simp [spanDigits, other]
  | cons c digits ih =>
    have rest := ih fun other member => all other (.tail _ member)
    simp [spanDigits, all c (.head _), rest]

theorem readWhole_digits (n : Nat) (closed : closes rest = true) :
    readWhole? ((Nat.toDigits 10 n).map .char ++ rest) = some (Nat.toDigits 10 n, rest) := by
  have spanned := spanDigits_digits (toDigits_digits n) closed
  obtain ⟨c, tail, begins, _, alone⟩ := toDigits_begins n
  rw [begins] at spanned ⊢
  by_cases zero : c = '0'
  · rw [zero, alone zero]
    rfl
  · rw [List.map_cons, List.cons_append] at spanned ⊢
    rw [readWhole?]
    · rw [spanned]
    · simpa using zero

theorem readNumber_digits (start : Codes) (negative : Bool) (n : Nat)
    (within : exceeds limit (Nat.toDigits 10 n).length = false) (closed : closes rest = true) :
    readNumber limit start negative ((Nat.toDigits 10 n).map .char ++ rest) =
      .ok (.int (if negative then -n else n), rest) := by
  have fraction : readFraction rest = ([], rest) := by
    unfold readFraction
    split
    · simp [closes] at closed
    · rfl
  have exponent : readExponent? rest = none := by
    unfold readExponent?
    split
    · rename_i e tail
      split
      · rename_i marked
        rcases Bool.or_eq_true _ _ ▸ marked with lower | upper
        · rw [of_decide_eq_true lower] at closed
          cases closed
        · rw [of_decide_eq_true upper] at closed
          cases closed
      · rfl
    · rfl
  simp [readNumber, readWhole_digits n closed, fraction, exponent, within,
    Nat.ofDigitChars_ten_toDigits]

-- No word begins as a number does, which its first two characters show.
def numeric (text : Codes) : Bool :=
  text.head?.any (·.is isDigit) || text.head? = some (.char '-') && text.tail.head?.any (·.is isDigit)

theorem words_numeric : ∀ entry ∈ words, numeric entry.1 = false ∧ 2 ≤ entry.1.length := by decide

theorem numeric_append {word : Codes} (long : 2 ≤ word.length) (rest : Codes) :
    numeric (word ++ rest) = numeric word := by
  match word with
  | first :: second :: more => rfl

theorem readWord_numeric {text : Codes} (begins : numeric text = true) : readWord? text = none := by
  rw [readWord?, List.findSome?_eq_none_iff]
  rintro ⟨word, value⟩ member
  obtain ⟨wordless, long⟩ := words_numeric _ member
  have apart : ¬ word.isPrefixOf text = true := by
    intro leads
    obtain ⟨rest, rfl⟩ := List.isPrefixOf_iff_prefix.mp leads
    rw [numeric_append long, wordless] at begins
    cases begins
  simp [after?, apart]

theorem numeric_int (n : Int) (rest : Codes) : numeric (codes (toString n) ++ rest) = true := by
  obtain ⟨c, tail, begins, digit, _⟩ := toDigits_begins n.natAbs
  rw [codes_int, begins]
  split <;> simp [numeric, Code.is, digit]

theorem readPlain_int (n : Int) (within : exceeds limit (digitCount n) = false)
    (closed : closes rest = true) :
    readPlain limit (codes (toString n) ++ rest) = .ok (.int n, rest) := by
  have wordless := readWord_numeric (numeric_int n rest)
  have form := codes_int n
  by_cases negative : n < 0
  · have size : -(n.natAbs : Int) = n := by omega
    rw [if_pos negative] at form
    rw [form] at wordless ⊢
    simp only [List.cons_append, List.nil_append, List.map_cons] at wordless ⊢
    rw [readPlain, wordless]
    simp only [readNumber_digits _ true n.natAbs within closed, if_true, size]
  · have size : (n.natAbs : Int) = n := by omega
    obtain ⟨c, tail, begins, digit, _⟩ := toDigits_begins n.natAbs
    rw [if_neg negative, List.nil_append] at form
    rw [form] at wordless ⊢
    have unsigned (more : Codes) :
        (Nat.toDigits 10 n.natAbs).map Code.char ++ rest ≠ .char '-' :: more := by
      rw [begins]
      rintro signed
      cases signed
      cases digit
    rw [readPlain, wordless]
    · simp [readNumber_digits _ false n.natAbs within closed, size]
    · exact unsigned

end Numbers

-- Where halves of pairs are escaped, no two of them make one character.
def Kept (charset : Charset) (s : Codes) : Prop := charset = .ascii → Unpaired s

-- Nothing floating, and in no object a name twice.
inductive Readable (limit : Option Nat) (charset : Charset) : Json → Prop where
  | null : Readable limit charset .null
  | bool (b : Bool) : Readable limit charset (.bool b)
  | int {n : Int} (within : exceeds limit (digitCount n) = false) :
      Readable limit charset (.int n)
  | str {s : Codes} (kept : Kept charset s) : Readable limit charset (.str s)
  | arr {items : List Json} (each : ∀ item ∈ items, Readable limit charset item) :
      Readable limit charset (.arr items)
  | obj {members : List (Codes × Json)} (apart : (members.map Prod.fst).Nodup)
      (names : ∀ member ∈ members, Kept charset member.1)
      (each : ∀ member ∈ members, Readable limit charset member.2) :
      Readable limit charset (.obj members)

section Blanks

variable {code : Code} {gap tail : Codes}

theorem skipBlanks_visible (visible : code.is isBlank = false) :
    skipBlanks (code :: tail) = code :: tail :=
  List.dropWhile_cons_of_neg (by simp [visible])

theorem skipBlanks_gap (blank : ∀ code ∈ gap, code.is isBlank = true)
    (visible : code.is isBlank = false) : skipBlanks (gap ++ code :: tail) = code :: tail := by
  rw [skipBlanks, List.dropWhile_append_of_pos blank]
  exact skipBlanks_visible visible

theorem before_blank (layout : Layout) (depth : Nat) :
    ∀ code ∈ layout.before depth, code.is isBlank = true := by
  intro code member
  cases layout with
  | line => cases member
  | indented =>
    rcases List.mem_cons.mp member with rfl | spaces
    · rfl
    · rw [List.eq_of_mem_replicate spaces]
      rfl

theorem space_blank : ∀ code ∈ [Code.char ' '], code.is isBlank = true := by
  intro code member
  rw [List.mem_singleton.mp member]
  rfl

theorem between_comma (layout : Layout) (depth : Nat) :
    ∃ gap, layout.between depth = .char ',' :: gap ∧ ∀ code ∈ gap, code.is isBlank = true := by
  cases layout with
  | line => exact ⟨[.char ' '], rfl, space_blank⟩
  | indented => exact ⟨_, rfl, before_blank .indented depth⟩

-- What the first code of a document is not: a blank, the end of an array, or a byte order mark.
def Opens (code : Code) : Prop :=
  code.is isBlank = false ∧ code ≠ .char ']' ∧ code ≠ .char (Char.ofNat 0xfeff)

instance : DecidablePred Opens := fun code =>
  inferInstanceAs (Decidable (code.is isBlank = false ∧ code ≠ .char ']' ∧
    code ≠ .char (Char.ofNat 0xfeff)))

theorem digit_opens {c : Char} (digit : isDigit c = true) : Opens (.char c) := by
  have apart (other : Char) (letter : isDigit other = false) : c ≠ other := by
    rintro rfl
    rw [letter] at digit
    cases digit
  have visible : isBlank c = false := by
    simp [isBlank, apart ' ' rfl, apart '\t' rfl, apart '\n' rfl, apart '\r' rfl]
  exact ⟨visible, by simpa using apart ']' rfl, by simpa using apart (Char.ofNat 0xfeff) rfl⟩

theorem spell_opens (layout : Layout) {value : Json} (readable : Readable limit charset value)
    (depth : Nat) : ∃ code tail, value.spell charset layout depth = code :: tail ∧ Opens code := by
  cases readable with
  | null => exact ⟨_, _, rfl, by decide⟩
  | bool b => cases b <;> exact ⟨_, _, rfl, by decide⟩
  | str kept => exact ⟨.char '"', _, rfl, by decide⟩
  | arr each => cases ‹List Json› <;> exact ⟨.char '[', _, rfl, by decide⟩
  | obj apart names each =>
    cases ‹List (Codes × Json)› <;> exact ⟨.char '\x7b', _, rfl, by decide⟩
  | @int n within =>
    obtain ⟨c, tail, begins, digit, _⟩ := toDigits_begins n.natAbs
    rw [spell, codes_int, begins]
    split
    · exact ⟨.char '-', _, rfl, by decide⟩
    · exact ⟨.char c, _, rfl, digit_opens digit⟩

end Blanks

section Steps

variable {fuel : Nat} {text rest after : Codes} {value item : Json} {items : List Json}
  {done members : List (Codes × Json)}

theorem readItems_last (read : readValue limit fuel text = .ok (item, rest))
    (closed : skipBlanks rest = .char ']' :: after) :
    readItems limit (fuel + 1) text = .ok ([item], after) := by
  simp [readItems, read, closed, bind, Except.bind, pure, Except.pure]

theorem readItems_more {gap : Codes} (read : readValue limit fuel text = .ok (item, rest))
    (next : skipBlanks rest = .char ',' :: gap)
    (later : readItems limit fuel (skipBlanks gap) = .ok (items, after)) :
    readItems limit (fuel + 1) text = .ok (item :: items, after) := by
  simp [readItems, read, next, later, bind, Except.bind, pure, Except.pure]

theorem spellString_append (s rest : Codes) :
    spellString charset s ++ rest =
      .char '"' :: (s.flatMap (escapeCode charset) ++ .char '"' :: rest) := by
  simp [spellString]

theorem skipBlanks_colon (text : Codes) : skipBlanks (.char ':' :: text) = .char ':' :: text := rfl

theorem readMembers_last {name : Codes} (kept : Kept charset name)
    (read : readValue limit fuel (skipBlanks text) = .ok (value, rest))
    (closed : skipBlanks rest = .char '\x7d' :: after) :
    readMembers limit (fuel + 1) done (spellString charset name ++ .char ':' :: text) =
      .ok (put name value done, after) := by
  simp [spellString_append, readMembers, readString_written kept, skipBlanks_colon, read, closed, bind,
    Except.bind, pure, Except.pure]

theorem readMembers_more {gap name : Codes} (kept : Kept charset name)
    (read : readValue limit fuel (skipBlanks text) = .ok (value, rest))
    (next : skipBlanks rest = .char ',' :: gap)
    (later : readMembers limit fuel (put name value done) (skipBlanks gap) = .ok (members, after)) :
    readMembers limit (fuel + 1) done (spellString charset name ++ .char ':' :: text) =
      .ok (members, after) := by
  simp [spellString_append, readMembers, readString_written kept, skipBlanks_colon, read, next, later,
    bind, Except.bind]

theorem readValue_items {inner : Codes} (opened : skipBlanks text = inner)
    (more : inner.head? ≠ some (.char ']')) (read : readItems limit fuel inner = .ok (items, after)) :
    readValue limit (fuel + 1) (.char '[' :: text) = .ok (.arr items, after) := by
  rw [readValue, opened]
  split
  · exact absurd rfl more
  · simp [read, bind, Except.bind, pure, Except.pure]

theorem readValue_members {inner : Codes} (opened : skipBlanks text = .char '"' :: inner)
    (read : readMembers limit fuel [] (.char '"' :: inner) = .ok (members, after)) :
    readValue limit (fuel + 1) (.char '\x7b' :: text) = .ok (.obj members, after) := by
  rw [readValue, opened]
  simp [read, bind, Except.bind, pure, Except.pure]

theorem readValue_str {s : Codes} (kept : Kept charset s) :
    readValue limit (fuel + 1) (spellString charset s ++ rest) = .ok (.str s, rest) := by
  simp [spellString_append, readValue, readString_written kept, bind, Except.bind, pure, Except.pure]

end Steps

section Values

variable {depth fuel : Nat} {ending rest : Codes} {value item : Json} {items : List Json}
  {name : Codes} {done members : List (Codes × Json)}

-- A value comes back from its text, whatever stands behind it that is not a part of a number.
def Returns (limit : Option Nat) (charset : Charset) (layout : Layout) (value : Json) : Prop :=
  ∀ depth fuel rest, (spell charset layout depth value).length ≤ fuel → closes rest = true →
    readValue limit fuel (spell charset layout depth value ++ rest) = .ok (value, rest)

theorem skipBlanks_before (layout : Layout) (depth : Nat) {code : Code}
    (visible : code.is isBlank = false) (tail : Codes) :
    skipBlanks (layout.before depth ++ code :: tail) = code :: tail :=
  skipBlanks_gap (before_blank layout depth) visible

theorem skipBlanks_spell {gap : Codes} (blank : ∀ code ∈ gap, code.is isBlank = true)
    (readable : Readable limit charset value) (rest : Codes) :
    skipBlanks (gap ++ (spell charset layout depth value ++ rest)) =
      spell charset layout depth value ++ rest := by
  obtain ⟨c, tail, opens, visible, _⟩ := spell_opens layout readable depth
  rw [opens]
  exact skipBlanks_gap blank visible

theorem spell_unclosed (readable : Readable limit charset value) (rest : Codes) :
    (spell charset layout depth value ++ rest).head? ≠ some (.char ']') := by
  obtain ⟨c, tail, opens, _, unclosed, _⟩ := spell_opens layout readable depth
  rw [opens]
  exact fun closed => unclosed (Option.some.inj closed)

theorem skipBlanks_string {gap : Codes} (blank : ∀ code ∈ gap, code.is isBlank = true) (s : Codes)
    (rest : Codes) :
    skipBlanks (gap ++ (spellString charset s ++ rest)) = spellString charset s ++ rest := by
  rw [spellString_append]
  exact skipBlanks_gap blank rfl

-- The first item stands apart because the reader takes an item before it looks for a comma. The text
-- behind the items is kept general: all that matters is that it begins with the closing bracket.
theorem items_return (each : ∀ one ∈ items, Readable limit charset one)
    (back : ∀ one ∈ item :: items, Returns limit charset layout one)
    (enough : (spell charset layout depth item).length +
      (spellItems charset layout depth items).length < fuel)
    (closed : closes ending = true) (ends : skipBlanks ending = .char ']' :: rest) :
    readItems limit fuel (spell charset layout depth item ++
      (spellItems charset layout depth items ++ ending)) = .ok (item :: items, rest) := by
  induction items generalizing item fuel with
  | nil =>
    obtain ⟨fuel, rfl⟩ : ∃ less, fuel = less + 1 := ⟨fuel - 1, by omega⟩
    have read := back item (.head _) depth fuel ending (by omega) closed
    exact readItems_last read ends
  | cons next items ih =>
    obtain ⟨fuel, rfl⟩ : ∃ less, fuel = less + 1 := ⟨fuel - 1, by omega⟩
    obtain ⟨gap, comma, blank⟩ := between_comma layout depth
    simp only [spellItems, List.length_append, comma, List.length_cons] at enough
    have later : readItems limit fuel (spell charset layout depth next ++
        (spellItems charset layout depth items ++ ending)) = .ok (next :: items, rest) :=
      ih (fun one member => each one (.tail _ member))
        (fun one member => back one (.tail _ member)) (by omega)
    have read := back item (.head _) depth fuel
      (layout.between depth ++ (spell charset layout depth next ++
        (spellItems charset layout depth items ++ ending)))
      (by omega) (closes_between layout depth _)
    rw [comma] at read
    rw [← skipBlanks_spell blank (each next (.head _))] at later
    rw [spellItems, List.append_assoc, List.append_assoc, comma]
    exact readItems_more read rfl later

theorem put_fresh (fresh : name ∉ done.map Prod.fst) :
    put name value done = done ++ [(name, value)] := by
  induction done with
  | nil => rfl
  | cons entry done ih =>
    rw [List.map_cons, List.mem_cons, not_or] at fresh
    rw [put, if_neg (Ne.symm fresh.1), ih fresh.2, List.cons_append]

theorem fresh_name (apart : ((done ++ (name, value) :: members).map Prod.fst).Nodup) :
    name ∉ done.map Prod.fst := by
  intro member
  rw [List.map_append, List.map_cons] at apart
  exact (List.nodup_append.mp apart).2.2 name member name (.head _) rfl

-- The members read so far have other names than those to come, so each member is put behind them.
theorem members_return (each : ∀ one ∈ (name, value) :: members, Readable limit charset one.2)
    (back : ∀ one ∈ (name, value) :: members, Returns limit charset layout one.2)
    (kept : ∀ one ∈ (name, value) :: members, Kept charset one.1)
    (apart : ((done ++ (name, value) :: members).map Prod.fst).Nodup)
    (enough : (spell charset layout depth value).length +
      (spellMembers charset layout depth members).length < fuel)
    (closed : closes ending = true) (ends : skipBlanks ending = .char '\x7d' :: rest) :
    readMembers limit fuel done (spellString charset name ++ .char ':' :: ([.char ' '] ++
      (spell charset layout depth value ++ (spellMembers charset layout depth members ++ ending)))) =
        .ok (done ++ (name, value) :: members, rest) := by
  induction members generalizing name value done fuel with
  | nil =>
    obtain ⟨fuel, rfl⟩ : ∃ less, fuel = less + 1 := ⟨fuel - 1, by omega⟩
    have returns : Returns limit charset layout value := back (name, value) (.head _)
    have read := returns depth fuel ending (by omega) closed
    rw [← skipBlanks_spell space_blank (each (name, value) (.head _))] at read
    rw [← put_fresh (fresh_name apart)]
    exact readMembers_last (kept _ (.head _)) read ends
  | cons next members ih =>
    obtain ⟨fuel, rfl⟩ : ∃ less, fuel = less + 1 := ⟨fuel - 1, by omega⟩
    obtain ⟨key, below⟩ := next
    obtain ⟨gap, comma, blank⟩ := between_comma layout depth
    have returns : Returns limit charset layout value := back (name, value) (.head _)
    have regrouped : done ++ (name, value) :: (key, below) :: members =
        put name value done ++ (key, below) :: members := by
      rw [put_fresh (fresh_name apart), List.append_assoc]
      rfl
    rw [regrouped] at apart ⊢
    simp only [spellMembers, List.length_append, comma, List.length_cons] at enough
    have later : readMembers limit fuel (put name value done) (spellString charset key ++ .char ':' ::
        ([.char ' '] ++ (spell charset layout depth below ++
          (spellMembers charset layout depth members ++ ending)))) =
        .ok (put name value done ++ (key, below) :: members, rest) :=
      ih (fun one member => each one (.tail _ member))
        (fun one member => back one (.tail _ member)) (fun one member => kept one (.tail _ member))
        apart (by omega)
    have read := returns depth fuel
      (layout.between depth ++ (spellString charset key ++ .char ':' :: ([.char ' '] ++
        (spell charset layout depth below ++ (spellMembers charset layout depth members ++ ending)))))
      (by omega) (closes_between layout depth _)
    rw [← skipBlanks_spell space_blank (each (name, value) (.head _)), comma] at read
    rw [← skipBlanks_string blank] at later
    have text : spellMembers charset layout depth ((key, below) :: members) ++ ending =
        .char ',' :: (gap ++ (spellString charset key ++ .char ':' :: ([.char ' '] ++
          (spell charset layout depth below ++
            (spellMembers charset layout depth members ++ ending))))) := by
      simp [spellMembers, comma, colon]
    rw [text]
    exact readMembers_more (kept _ (.head _)) read rfl later

-- What begins as a number is no string, array or object.
theorem readValue_numeric {text : Codes} (begins : numeric text = true) :
    readValue limit (fuel + 1) text = readPlain limit text := by
  have other {c : Char} {tail : Codes} (letter : isDigit c = false) (dash : c ≠ '-') :
      text ≠ .char c :: tail := by
    rintro rfl
    simp [numeric, Code.is, letter, dash] at begins
  rw [readValue]
  · rintro rfl
    cases begins
  · exact fun _ => other rfl (by decide)
  · exact fun _ => other rfl (by decide)
  · exact fun _ => other rfl (by decide)

-- Every document has a first character, so the fuel is never used up.
theorem Readable.returns_fueled (readable : Readable limit charset value)
    (back : ∀ depth fuel rest, (spell charset layout depth value).length ≤ fuel + 1 →
      closes rest = true →
      readValue limit (fuel + 1) (spell charset layout depth value ++ rest) = .ok (value, rest)) :
    Returns limit charset layout value := by
  intro depth fuel rest enough closed
  obtain ⟨c, tail, opens, _⟩ := spell_opens layout readable depth
  cases fuel with
  | zero =>
    rw [opens] at enough
    cases enough
  | succ fuel => exact back depth fuel rest enough closed

theorem Readable.returns (readable : Readable limit charset value) : Returns limit charset layout value := by
  induction readable with
  | null => exact Readable.null.returns_fueled fun _ _ _ _ _ => rfl
  | bool b =>
    refine (Readable.bool b).returns_fueled fun _ _ _ _ _ => ?_
    cases b <;> rfl
  | @int n within =>
    refine (Readable.int within).returns_fueled fun depth fuel rest _ closed => ?_
    rw [spell, readValue_numeric (numeric_int n rest)]
    exact readPlain_int n within closed
  | @str s kept => exact (Readable.str kept).returns_fueled fun _ _ _ _ _ => readValue_str kept
  | @arr items each ih =>
    refine (Readable.arr each).returns_fueled fun depth fuel rest enough closed => ?_
    cases items with
    | nil => rfl
    | cons item items =>
      simp only [spell, List.length_append, List.length_cons] at enough
      have text : spell charset layout depth (.arr (item :: items)) ++ rest =
          .char '[' :: (layout.before (depth + 1) ++ (spell charset layout (depth + 1) item ++
            (spellItems charset layout (depth + 1) items ++ (layout.before depth ++ .char ']' :: rest)))) := by
        simp [spell]
      rw [text]
      have fueled : (spell charset layout (depth + 1) item).length +
          (spellItems charset layout (depth + 1) items).length < fuel := by omega
      have inner := items_return (fun one member => each one (.tail _ member)) ih fueled
        (closes_before layout depth rest).1 (skipBlanks_before layout depth rfl rest)
      exact readValue_items (skipBlanks_spell (before_blank _ _) (each item (.head _)) _)
        (spell_unclosed (each item (.head _)) _) inner
  | @obj members apart names each ih =>
    refine (Readable.obj apart names each).returns_fueled fun depth fuel rest enough closed => ?_
    cases members with
    | nil => rfl
    | cons member members =>
      obtain ⟨name, value⟩ := member
      simp only [spell, List.length_append, List.length_cons] at enough
      have text : spell charset layout depth (.obj ((name, value) :: members)) ++ rest =
          .char '\x7b' :: (layout.before (depth + 1) ++ (spellString charset name ++ .char ':' ::
            ([.char ' '] ++
            (spell charset layout (depth + 1) value ++
              (spellMembers charset layout (depth + 1) members ++
                (layout.before depth ++ .char '\x7d' :: rest)))))) := by
        simp [spell, colon]
      rw [text]
      have fueled : (spell charset layout (depth + 1) value).length +
          (spellMembers charset layout (depth + 1) members).length < fuel := by omega
      have listed : (([] ++ (name, value) :: members).map Prod.fst).Nodup := apart
      have inner := members_return each ih names listed fueled
        (closes_before layout depth rest).2 (skipBlanks_before layout depth rfl rest)
      exact readValue_members (skipBlanks_string (before_blank _ _) _ _) inner

theorem Readable.readWithin (readable : Readable limit charset value) (layout : Layout) :
    readWithin limit (spell charset layout 0 value) = .ok value := by
  obtain ⟨code, tail, opens, visible, _, unmarked⟩ := spell_opens layout readable 0
  have returns : Returns limit charset layout value := readable.returns
  have read := returns 0 ((spell charset layout 0 value).length + 1) [] (by omega) rfl
  rw [List.append_nil, opens] at read
  have begins : (code :: tail).head? ≠ some (.char (Char.ofNat 0xfeff)) :=
    fun marked => unmarked (Option.some.inj marked)
  have skipped : skipBlanks (code :: tail) = code :: tail := skipBlanks_visible visible
  rw [Json.readWithin, opens, if_neg begins, skipped, read]
  rfl

theorem spell_injective {other : Json} (readable : Readable none charset value)
    (also : Readable none charset other)
    (same : spell charset layout 0 value = spell charset layout 0 other) : value = other := by
  have first := readable.readWithin layout
  rw [same, also.readWithin layout] at first
  exact (Except.ok.inj first).symm

theorem mem_itemWholes {items : List Json} : n ∈ itemWholes items ↔ ∃ item ∈ items, n ∈ item.wholes := by
  induction items with
  | nil => simp [itemWholes]
  | cons item items ih => simp [itemWholes, ih]

theorem mem_memberWholes {members : List (Codes × Json)} :
    n ∈ memberWholes members ↔ ∃ member ∈ members, n ∈ member.2.wholes := by
  induction members with
  | nil => simp [memberWholes]
  | cons member members ih => simp [memberWholes, ih]

-- What comes back is written, since it holds no number beyond the limit.
theorem Readable.wholes_within (readable : Readable limit charset value) :
    ∀ n ∈ value.wholes, exceeds limit (digitCount n) = false := by
  induction readable with
  | null => nofun
  | bool b => nofun
  | str kept => nofun
  | int within =>
    rw [wholes, List.forall_mem_singleton]
    exact within
  | arr each ih =>
    intro n held
    rw [wholes, mem_itemWholes] at held
    obtain ⟨item, member, held⟩ := held
    exact ih item member n held
  | obj apart names each ih =>
    intro n held
    rw [wholes, mem_memberWholes] at held
    obtain ⟨member, listed, held⟩ := held
    exact ih member listed n held

-- A limit matters for the whole numbers only.
theorem Readable.limited (readable : Readable limit charset value)
    (within : ∀ n ∈ value.wholes, exceeds other (digitCount n) = false) :
    Readable other charset value := by
  induction readable with
  | null => exact .null
  | bool b => exact .bool b
  | str kept => exact .str kept
  | int _ => exact .int (within _ (.head _))
  | arr each ih =>
    exact .arr fun item member => ih item member fun n held =>
      within n (mem_itemWholes.mpr ⟨item, member, held⟩)
  | obj apart names each ih =>
    exact .obj apart names fun member listed => ih member listed fun n held =>
      within n (mem_memberWholes.mpr ⟨member, listed, held⟩)

theorem oversized_none :
    oversized? limit value = none ↔ ∀ n ∈ value.wholes, exceeds limit (digitCount n) = false := by
  simp [oversized?]

theorem Readable.written (readable : Readable limit charset value) (also : Charset)
    (layout : Layout) : value.write limit also layout = .ok (spell also layout 0 value) := by
  rw [write, oversized_none.mpr readable.wholes_within]

theorem write_unlimited (value : Json) :
    value.write none charset layout = .ok (spell charset layout 0 value) := by
  rw [write, oversized_none.mpr fun _ _ => rfl]

end Values

end EndpointCatalog.Json
