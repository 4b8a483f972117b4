import EndpointCatalog.Proofs.Computable
import EndpointCatalog.Proofs.FloatRange
import Mathlib

namespace EndpointCatalog.Source

open Decimal (Double)

inductive Signed : Expr → Atom → Prop where
  | plain : number.isNumber = true → Signed (.constant number) number
  | plus : number.isNumber = true → Signed (.unary .plus (.constant number)) number
  | minus : number.isNumber = true → Signed (.unary .minus (.constant number)) number.negate

-- From here on whole numbers are beyond every double.
def OutOfRange (n : Int) : Prop := 2 ^ 1024 - 2 ^ 970 ≤ n.natAbs

inductive RealPart : Atom → Double → Prop where
  | whole : ¬ OutOfRange n → RealPart (.int n) (.ofInt n)
  | floating : RealPart (.float x) x

def itemsOnce (done values : List Value) : List Value :=
  values.foldl (fun done value => insertItem value done) done

def entriesOnce (done : List (Value × Value)) (keys values : List Value) : List (Value × Value) :=
  (keys.zip values).foldl (fun done entry => insertEntry entry.1 entry.2 done) done

-- Of equal items of a set the first stays; of equal keys the first stays with the last value.
inductive Spells : Expr → Value → Prop where
  | constant : Spells (.constant value) (.atom value)
  | tuple : List.Forall₂ Spells items values → Spells (.tuple items) (.tuple values)
  | list : List.Forall₂ Spells items values → Spells (.list items) (.list values)
  | set : List.Forall₂ Spells items values → (∀ value ∈ values, value.isKey = true) →
      Spells (.set items) (.set (itemsOnce [] values))
  | dict {parts : List (Expr × Expr)} : List.Forall₂ Spells (parts.map Prod.fst) keys →
      List.Forall₂ Spells (parts.map Prod.snd) values → (∀ key ∈ keys, key.isKey = true) →
      Spells (.dict (parts.map fun part => (some part.1, part.2))) (.dict (entriesOnce [] keys values))
  | empty : Spells (.call (.name "set") [] []) (.set [])
  | signed : Signed (.unary op operand) number → Spells (.unary op operand) (.atom number)
  | sum : Signed left number → RealPart number x →
      Spells (.binary .add left (.constant (.complex re im))) (.atom (.complex x.addZero im.addZero))
  | difference : Signed left number → RealPart number x →
      Spells (.binary .sub left (.constant (.complex re im)))
        (.atom (.complex x (if im.isZero then .zero else im.neg)))

def Literal (expr : Expr) : Prop := ∃ value, Spells expr value

def LiteralKey (expr : Expr) : Prop := ∃ value, Spells expr value ∧ value.isKey = true

def LiteralEntry (entry : Option Expr × Expr) : Prop :=
  ∃ key, entry.1 = some key ∧ LiteralKey key ∧ Literal entry.2

-- Such a sum is met before anything that is no literal. The value of an entry is met before it is
-- known whether its key may be one.
inductive Overflows : Expr → Prop where
  | sum : Signed left (.int n) → OutOfRange n → op ≠ .other →
      Overflows (.binary op left (.constant (.complex re im)))
  | tuple : (∀ item ∈ front, Literal item) → Overflows item →
      Overflows (.tuple (front ++ item :: back))
  | list : (∀ item ∈ front, Literal item) → Overflows item →
      Overflows (.list (front ++ item :: back))
  | set : (∀ item ∈ front, LiteralKey item) → Overflows item →
      Overflows (.set (front ++ item :: back))
  | key : (∀ entry ∈ front, LiteralEntry entry) → Overflows key →
      Overflows (.dict (front ++ (some key, value) :: back))
  | value : (∀ entry ∈ front, LiteralEntry entry) → Literal key → Overflows value →
      Overflows (.dict (front ++ (some key, value) :: back))

-- Items up to the first that has a property, each of which has another.
def Reaches (passed met : α → Prop) (items : List α) : Prop :=
  ∃ front item back, items = front ++ item :: back ∧ (∀ item ∈ front, passed item) ∧ met item

theorem reaches_nil {passed met : α → Prop} : ¬ Reaches passed met [] := by
  rintro ⟨front, item, back, parts, -⟩
  exact absurd parts.symm (by simp)

theorem reaches_cons {passed met : α → Prop} :
    Reaches passed met (item :: rest) ↔ met item ∨ passed item ∧ Reaches passed met rest := by
  constructor
  · rintro ⟨front, found, back, parts, fine, large⟩
    cases front with
    | nil =>
      obtain ⟨rfl, -⟩ := List.cons.inj parts
      exact .inl large
    | cons first front =>
      obtain ⟨rfl, inside⟩ := List.cons.inj parts
      obtain ⟨own, others⟩ := List.forall_mem_cons.mp fine
      exact .inr ⟨own, front, found, back, inside, others, large⟩
  · rintro (large | ⟨own, front, found, back, rfl, fine, large⟩)
    · exact ⟨[], item, rest, rfl, by simp, large⟩
    · exact ⟨item :: front, found, back, rfl, List.forall_mem_cons.mpr ⟨own, fine⟩, large⟩

def LargeEntry (entry : Option Expr × Expr) : Prop :=
  ∃ key, entry.1 = some key ∧ (Overflows key ∨ Literal key ∧ Overflows entry.2)

theorem overflows_tuple : Overflows (.tuple items) ↔ Reaches Literal Overflows items := by
  constructor
  · rintro ⟨⟩
    exact ⟨_, _, _, rfl, ‹_›, ‹_›⟩
  · rintro ⟨front, item, back, rfl, fine, large⟩
    exact .tuple fine large

theorem overflows_list : Overflows (.list items) ↔ Reaches Literal Overflows items := by
  constructor
  · rintro ⟨⟩
    exact ⟨_, _, _, rfl, ‹_›, ‹_›⟩
  · rintro ⟨front, item, back, rfl, fine, large⟩
    exact .list fine large

theorem overflows_set : Overflows (.set items) ↔ Reaches LiteralKey Overflows items := by
  constructor
  · rintro ⟨⟩
    exact ⟨_, _, _, rfl, ‹_›, ‹_›⟩
  · rintro ⟨front, item, back, rfl, fine, large⟩
    exact .set fine large

theorem overflows_dict : Overflows (.dict entries) ↔ Reaches LiteralEntry LargeEntry entries := by
  constructor
  · intro large
    cases large with
    | key fine large => exact ⟨_, _, _, rfl, fine, _, rfl, .inl large⟩
    | value fine own large => exact ⟨_, _, _, rfl, fine, _, rfl, .inr ⟨own, large⟩⟩
  · rintro ⟨front, ⟨-, value⟩, back, rfl, fine, key, rfl, large | ⟨own, large⟩⟩
    · exact .key fine large
    · exact .value fine own large

structure Decided (expr : Expr) : Prop where
  ok : ∀ value, expr.evaluate = .ok value ↔ Spells expr value
  tooLarge : expr.TooLarge ↔ Overflows expr

theorem pure_gives {made result : α} : (pure made : Except ε α) = .ok result ↔ made = result := by
  simp [pure, Except.pure]

theorem pure_succeeds {made : α} : (pure made : Except ε α) ≠ .error e := by
  rintro ⟨⟩

theorem expectKey_ok : expectKey value = .ok found ↔ value.isKey = true ∧ value = found := by
  unfold expectKey
  split <;> simp_all

theorem expectKey_within : expectKey value ≠ .error .wholeTooLarge := by
  unfold expectKey
  split <;> simp

section Items

variable {items : List Expr} (decided : ∀ item ∈ items, Decided item)
include decided

theorem evaluateAll_ok : evaluateAll items = .ok values ↔ List.Forall₂ Spells items values := by
  induction items generalizing values with
  | nil => simp [evaluateAll, eq_comm]
  | cons item rest ih =>
    obtain ⟨own, others⟩ := List.forall_mem_cons.mp decided
    simp only [evaluateAll, bind_gives, own.ok, ih others, pure_gives, List.forall₂_cons_left_iff,
      @eq_comm _ values, exists_and_left]

theorem evaluateAll_tooLarge :
    evaluateAll items = .error .wholeTooLarge ↔ Reaches Literal Overflows items := by
  induction items with
  | nil => exact iff_of_false (by rintro ⟨⟩) reaches_nil
  | cons item rest ih =>
    obtain ⟨own, others⟩ := List.forall_mem_cons.mp decided
    have large : item.evaluate = .error .wholeTooLarge ↔ Overflows item := own.tooLarge
    simp only [evaluateAll, bind_fails, own.ok, large, ih others, pure_succeeds, reaches_cons, Literal,
      and_false, exists_false, or_false, exists_and_right]

theorem evaluateSet_ok (done : List Value) : evaluateSet done items = .ok made ↔
    ∃ values, List.Forall₂ Spells items values ∧ (∀ value ∈ values, value.isKey = true) ∧
      made = itemsOnce done values := by
  induction items generalizing done with
  | nil => simp [evaluateSet, itemsOnce, @eq_comm _ made]
  | cons item rest ih =>
    obtain ⟨own, others⟩ := List.forall_mem_cons.mp decided
    rw [evaluateSet]
    simp only [bind_gives, own.ok, expectKey_ok, ih others]
    constructor
    · rintro ⟨value, spelled, _, ⟨key, rfl⟩, values, each, keys, rfl⟩
      exact ⟨value :: values, .cons spelled each, List.forall_mem_cons.mpr ⟨key, keys⟩, rfl⟩
    · rintro ⟨values, each, keys, rfl⟩
      cases each with
      | cons spelled each =>
        obtain ⟨key, keys⟩ := List.forall_mem_cons.mp keys
        exact ⟨_, spelled, _, ⟨key, rfl⟩, _, each, keys, rfl⟩

theorem evaluateSet_tooLarge (done : List Value) :
    evaluateSet done items = .error .wholeTooLarge ↔ Reaches LiteralKey Overflows items := by
  induction items generalizing done with
  | nil => exact iff_of_false (by rintro ⟨⟩) reaches_nil
  | cons item rest ih =>
    obtain ⟨own, others⟩ := List.forall_mem_cons.mp decided
    have large : item.evaluate = .error .wholeTooLarge ↔ Overflows item := own.tooLarge
    simp only [evaluateSet, bind_fails, own.ok, large, ih others, expectKey_ok, expectKey_within,
      false_or, reaches_cons, LiteralKey]
    constructor
    · rintro (large | ⟨value, spelled, _, ⟨key, rfl⟩, later⟩)
      · exact .inl large
      · exact .inr ⟨⟨value, spelled, key⟩, later⟩
    · rintro (large | ⟨⟨value, spelled, key⟩, later⟩)
      · exact .inl large
      · exact .inr ⟨value, spelled, value, ⟨key, rfl⟩, later⟩

end Items

section Entries

variable {entries : List (Option Expr × Expr)}
  (decided : ∀ entry ∈ entries, (∀ key ∈ entry.1, Decided key) ∧ Decided entry.2)
include decided

theorem evaluateEntries_ok (done : List (Value × Value)) : evaluateEntries done entries = .ok made ↔
    ∃ (parts : List (Expr × Expr)) (keys values : List Value),
      entries = parts.map (fun part => (some part.1, part.2)) ∧
      List.Forall₂ Spells (parts.map Prod.fst) keys ∧ List.Forall₂ Spells (parts.map Prod.snd) values ∧
      (∀ key ∈ keys, key.isKey = true) ∧ made = entriesOnce done keys values := by
  induction entries generalizing done with
  | nil =>
    rw [evaluateEntries]
    constructor
    · rintro ⟨⟩
      exact ⟨[], [], [], rfl, .nil, .nil, by simp, rfl⟩
    · rintro ⟨parts, keys, values, empty, named, each, -, rfl⟩
      obtain rfl := List.map_eq_nil_iff.mp empty.symm
      cases named
      rfl
  | cons entry rest ih =>
    obtain ⟨⟨ownKey, own⟩, others⟩ := List.forall_mem_cons.mp decided
    obtain ⟨key?, item⟩ := entry
    cases key? with
    | none =>
      rw [evaluateEntries]
      refine iff_of_false (by rintro ⟨⟩) ?_
      rintro ⟨parts, keys, values, same, -⟩
      obtain ⟨part, parts, -, first, -⟩ := List.map_eq_cons_iff.mp same.symm
      cases first
    | some key =>
      have known := ownKey key rfl
      rw [evaluateEntries]
      simp only [bind_gives, known.ok, own.ok, expectKey_ok, ih others]
      constructor
      · rintro ⟨name, spelled, value, held, _, ⟨hashed, rfl⟩, parts, keys, values, rfl, named, each,
          hashes, rfl⟩
        exact ⟨(key, item) :: parts, name :: keys, value :: values, rfl, .cons spelled named,
          .cons held each, List.forall_mem_cons.mpr ⟨hashed, hashes⟩, rfl⟩
      · rintro ⟨parts, keys, values, same, named, each, hashes, rfl⟩
        obtain ⟨part, parts, rfl, first, rfl⟩ := List.map_eq_cons_iff.mp same.symm
        cases first
        cases named with
        | cons spelled named =>
          cases each with
          | cons held each =>
            obtain ⟨hashed, hashes⟩ := List.forall_mem_cons.mp hashes
            exact ⟨_, spelled, _, held, _, ⟨hashed, rfl⟩, parts, _, _, rfl, named, each, hashes, rfl⟩

theorem evaluateEntries_tooLarge (done : List (Value × Value)) :
    evaluateEntries done entries = .error .wholeTooLarge ↔ Reaches LiteralEntry LargeEntry entries := by
  induction entries generalizing done with
  | nil => exact iff_of_false (by rintro ⟨⟩) reaches_nil
  | cons entry rest ih =>
    obtain ⟨⟨ownKey, own⟩, others⟩ := List.forall_mem_cons.mp decided
    obtain ⟨key?, item⟩ := entry
    rw [reaches_cons]
    cases key? with
    | none => simp [evaluateEntries, LargeEntry, LiteralEntry]
    | some key =>
      have known := ownKey key rfl
      have largeKey : key.evaluate = .error .wholeTooLarge ↔ Overflows key := known.tooLarge
      have large : item.evaluate = .error .wholeTooLarge ↔ Overflows item := own.tooLarge
      rw [evaluateEntries]
      simp only [bind_fails, known.ok, own.ok, largeKey, large, ih others, expectKey_ok,
        expectKey_within, false_or]
      constructor
      · rintro (large | ⟨name, spelled, large | ⟨value, held, _, ⟨hashed, rfl⟩, later⟩⟩)
        · exact .inl ⟨key, rfl, .inl large⟩
        · exact .inl ⟨key, rfl, .inr ⟨⟨name, spelled⟩, large⟩⟩
        · exact .inr ⟨⟨key, rfl, ⟨name, spelled, hashed⟩, value, held⟩, later⟩
      · rintro (⟨_, ⟨⟩, large | ⟨⟨name, spelled⟩, large⟩⟩ |
          ⟨⟨_, ⟨⟩, ⟨name, spelled, hashed⟩, value, held⟩, later⟩)
        · exact .inl large
        · exact .inr ⟨name, spelled, .inl large⟩
        · exact .inr ⟨name, spelled, .inr ⟨value, held, name, ⟨hashed, rfl⟩, later⟩⟩

end Entries

theorem number_iff {expr : Expr} :
    expr.number? = some number ↔ expr = .constant number ∧ number.isNumber = true := by
  cases expr with
  | constant value =>
    unfold Expr.number?
    split <;> grind
  | _ => simp [Expr.number?]

theorem signed_iff : expr.signedNumber? = some number ↔ Signed expr number := by
  constructor
  · intro found
    unfold Expr.signedNumber? at found
    split at found
    · obtain ⟨rfl, shape⟩ := number_iff.mp found
      exact .plus shape
    · obtain ⟨bare, spelled, rfl⟩ := Option.map_eq_some_iff.mp found
      obtain ⟨rfl, shape⟩ := number_iff.mp spelled
      exact .minus shape
    · obtain ⟨rfl, shape⟩ := number_iff.mp found
      exact .plain shape
  · rintro (shape | shape | shape) <;> simp [Expr.signedNumber?, Expr.number?, shape]

theorem real_iff {atom : Atom} : atom.real? = some (.ok x) ↔ RealPart atom x := by
  constructor
  · intro found
    unfold Atom.real? at found
    split at found
    · dsimp only at found
      split at found
      · cases found
      · rename_i within
        cases found
        exact .whole (mt (Double.ofInt_infinite _).mpr within)
    · cases found
      exact .floating
    · cases found
  · rintro (within | _)
    · have finite := mt (Double.ofInt_infinite _).mp within
      simp [Atom.real?, finite]
    · rfl

theorem real_tooLarge {atom : Atom} :
    atom.real? = some (.error .wholeTooLarge) ↔ ∃ n, atom = .int n ∧ OutOfRange n := by
  cases atom with
  | int n =>
    have range : (Double.ofInt n).isInfinite = true ↔ OutOfRange n := Double.ofInt_infinite n
    simp [Atom.real?, range]
  | _ => simp [Atom.real?]

def complexOf (op : BinaryOp) (x im : Double) : Atom :=
  match op with
  | .add => .complex x.addZero im.addZero
  | _ => .complex x (if im.isZero then .zero else im.neg)

theorem complexSum_real (held : left.real? = some real) :
    complexSum op left (.complex re im) = real >>= fun x => pure (complexOf op x im) := by
  unfold complexSum
  rw [held]
  cases op <;> rfl

theorem complexSum_parts (made : complexSum op left right ≠ .error .notLiteral) :
    ∃ real re im, left.real? = some real ∧ right = .complex re im := by
  unfold complexSum at made
  split at made
  · rename_i held
    exact ⟨_, _, _, held, rfl⟩
  · exact absurd rfl made

theorem complexSum_ok : complexSum op left right = .ok total ↔
    ∃ x re im, RealPart left x ∧ right = .complex re im ∧ complexOf op x im = total := by
  constructor
  · intro made
    obtain ⟨real, re, im, held, rfl⟩ := complexSum_parts (by rw [made]; rintro ⟨⟩)
    rw [complexSum_real held, bind_gives] at made
    obtain ⟨x, rfl, same⟩ := made
    exact ⟨x, re, im, real_iff.mp held, rfl, pure_gives.mp same⟩
  · rintro ⟨x, re, im, part, rfl, rfl⟩
    rw [complexSum_real (real_iff.mpr part)]
    rfl

theorem complexSum_tooLarge : complexSum op left right = .error .wholeTooLarge ↔
    ∃ n re im, left = .int n ∧ OutOfRange n ∧ right = .complex re im := by
  constructor
  · intro made
    obtain ⟨real, re, im, held, rfl⟩ := complexSum_parts (by rw [made]; rintro ⟨⟩)
    rw [complexSum_real held, bind_fails] at made
    rcases made with rfl | ⟨x, -, absurd⟩
    · obtain ⟨n, rfl, large⟩ := real_tooLarge.mp held
      exact ⟨n, re, im, rfl, large, rfl⟩
    · exact (pure_succeeds absurd).elim
  · rintro ⟨n, re, im, rfl, large, rfl⟩
    rw [complexSum_real (real_tooLarge.mpr ⟨n, rfl, large⟩)]
    rfl

theorem decided_display {made : Except EvalError α} (wrap : α → Value)
    (evaluates : expr.evaluate = made >>= fun x => pure (wrap x))
    (spelled : ∀ value, Spells expr value ↔ ∃ x, made = .ok x ∧ wrap x = value)
    (large : Overflows expr ↔ made = .error .wholeTooLarge) : Decided expr where
  ok value := by simp only [evaluates, bind_gives, pure_gives, spelled]
  tooLarge := by
    simp only [Expr.TooLarge, evaluates, bind_fails, pure_succeeds, and_false, exists_false, or_false,
      large]

theorem decided_items {form : Expr} (wrap : List Value → Value)
    (evaluates : form.evaluate = evaluateAll items >>= fun made => pure (wrap made))
    (spelled : ∀ value, Spells form value ↔
      ∃ values, List.Forall₂ Spells items values ∧ wrap values = value)
    (large : Overflows form ↔ Reaches Literal Overflows items)
    (each : ∀ item ∈ items, Decided item) : Decided form := by
  refine decided_display wrap evaluates (fun value => ?_) ?_
  · simp only [spelled, evaluateAll_ok each]
  · rw [large, evaluateAll_tooLarge each]

theorem spells_tuple : Spells (.tuple items) value ↔
    ∃ values, List.Forall₂ Spells items values ∧ .tuple values = value :=
  ⟨fun | .tuple spelled => ⟨_, spelled, rfl⟩, fun ⟨_, spelled, same⟩ => same ▸ .tuple spelled⟩

theorem spells_list : Spells (.list items) value ↔
    ∃ values, List.Forall₂ Spells items values ∧ .list values = value :=
  ⟨fun | .list spelled => ⟨_, spelled, rfl⟩, fun ⟨_, spelled, same⟩ => same ▸ .list spelled⟩

theorem decided_set (each : ∀ item ∈ items, Decided item) : Decided (.set items) := by
  have evaluates : (Expr.set items).evaluate =
      evaluateSet [] items >>= fun made => pure (.set made) := by
    rw [Expr.evaluate]
  refine decided_display .set evaluates (fun value => ?_) ?_
  · simp only [evaluateSet_ok each]
    constructor
    · rintro ⟨⟩
      exact ⟨_, ⟨_, ‹_›, ‹_›, rfl⟩, rfl⟩
    · rintro ⟨_, ⟨values, spelled, keys, rfl⟩, rfl⟩
      exact .set spelled keys
  · rw [overflows_set, evaluateSet_tooLarge each]

theorem decided_dict {entries : List (Option Expr × Expr)}
    (each : ∀ entry ∈ entries, (∀ key ∈ entry.1, Decided key) ∧ Decided entry.2) :
    Decided (.dict entries) := by
  have evaluates : (Expr.dict entries).evaluate =
      evaluateEntries [] entries >>= fun made => pure (.dict made) := by
    rw [Expr.evaluate]
  refine decided_display .dict evaluates (fun value => ?_) ?_
  · simp only [evaluateEntries_ok each]
    constructor
    · rintro ⟨⟩
      exact ⟨_, ⟨_, _, _, rfl, ‹_›, ‹_›, ‹_›, rfl⟩, rfl⟩
    · rintro ⟨_, ⟨parts, keys, values, rfl, named, held, hashes, rfl⟩, rfl⟩
      exact .dict named held hashes
  · rw [overflows_dict, evaluateEntries_tooLarge each]

theorem decided_unary : Decided (.unary op operand) := by
  refine ⟨fun value => ?_, iff_of_false ?_ (by rintro ⟨⟩)⟩
  · rw [Expr.evaluate]
    constructor
    · intro found
      split at found
      · rename_i held
        cases found
        exact .signed (signed_iff.mp held)
      · cases found
    · rintro ⟨⟩
      rename_i spelled
      rw [signed_iff.mpr spelled]
  · rw [Expr.TooLarge, Expr.evaluate]
    split <;> simp

theorem evaluate_parts (made : (Expr.binary op left right).evaluate ≠ .error .notLiteral) :
    op ≠ .other ∧ ∃ number other, Signed left number ∧ right = .constant other ∧
      (Expr.binary op left right).evaluate =
        complexSum op number other >>= fun total => pure (.atom total) := by
  unfold Expr.evaluate at made ⊢
  split at made
  · exact absurd rfl made
  · rename_i sums
    split at made
    · rename_i number other first second
      obtain ⟨rfl, -⟩ := number_iff.mp second
      exact ⟨sums, number, other, signed_iff.mp first, rfl, if_neg sums⟩
    · exact absurd rfl made

theorem evaluate_signed (sums : op ≠ .other) (signed : Signed left number) :
    (Expr.binary op left (.constant (.complex re im))).evaluate =
      complexSum op number (.complex re im) >>= fun total => pure (.atom total) := by
  have second : (Expr.constant (.complex re im)).number? = some (.complex re im) :=
    number_iff.mpr ⟨rfl, rfl⟩
  rw [Expr.evaluate, if_neg sums, signed_iff.mpr signed, second]

theorem decided_binary : Decided (.binary op left right) := by
  constructor
  · intro value
    constructor
    · intro made
      obtain ⟨sums, number, other, signed, rfl, evaluates⟩ := evaluate_parts (by rw [made]; rintro ⟨⟩)
      rw [evaluates, bind_gives] at made
      obtain ⟨total, summed, same⟩ := made
      obtain ⟨x, re, im, part, rfl, rfl⟩ := complexSum_ok.mp summed
      obtain rfl := pure_gives.mp same
      cases op with
      | add => exact .sum signed part
      | sub => exact .difference signed part
      | other => exact absurd rfl sums
    · intro spelled
      cases spelled with
      | sum signed part =>
        rw [evaluate_signed (by decide) signed, complexSum_ok.mpr ⟨_, _, _, part, rfl, rfl⟩]
        rfl
      | difference signed part =>
        rw [evaluate_signed (by decide) signed, complexSum_ok.mpr ⟨_, _, _, part, rfl, rfl⟩]
        rfl
  · constructor
    · intro made
      rw [Expr.TooLarge] at made
      obtain ⟨sums, number, other, signed, rfl, evaluates⟩ := evaluate_parts (by rw [made]; rintro ⟨⟩)
      rw [evaluates, bind_fails] at made
      rcases made with summed | ⟨total, -, absurd⟩
      · obtain ⟨n, re, im, rfl, large, rfl⟩ := complexSum_tooLarge.mp summed
        exact .sum signed large sums
      · exact (pure_succeeds absurd).elim
    · intro large
      cases large with
      | sum signed range sums =>
        rw [Expr.TooLarge, evaluate_signed sums signed,
          complexSum_tooLarge.mpr ⟨_, _, _, rfl, range, rfl⟩]
        rfl

theorem isName_iff {expr : Expr} {id : String} : expr.isName id = true ↔ expr = .name id := by
  cases expr <;> simp [Expr.isName]

theorem decided_call {keywords : List (Option String × Expr)} :
    Decided (.call function args keywords) := by
  refine ⟨fun value => ?_, iff_of_false ?_ (by rintro ⟨⟩)⟩
  · rw [Expr.evaluate]
    constructor
    · intro made
      split at made
      · rename_i empty
        cases made
        simp only [Bool.and_eq_true, isName_iff, List.isEmpty_iff] at empty
        obtain ⟨⟨rfl, rfl⟩, rfl⟩ := empty
        exact .empty
      · cases made
    · rintro ⟨⟩
      rfl
  · rw [Expr.TooLarge, Expr.evaluate]
    split <;> simp

theorem decided (expr : Expr) : Decided expr := by
  have unread {expr : Expr} (fails : expr.evaluate = .error .notLiteral) (spells : ¬ Literal expr)
      (large : ¬ Overflows expr) : Decided expr := by
    refine ⟨fun value => iff_of_false ?_ fun spelled => spells ⟨value, spelled⟩, iff_of_false ?_ large⟩
    · simp [fails]
    · simp [Expr.TooLarge, fails]
  cases expr with
  | constant value =>
    refine ⟨fun found => ?_, iff_of_false (by rintro ⟨⟩) (by rintro ⟨⟩)⟩
    rw [Expr.evaluate]
    constructor
    · rintro ⟨⟩
      exact .constant
    · rintro ⟨⟩
      rfl
  | tuple items =>
    exact decided_items .tuple (by rw [Expr.evaluate]) (fun _ => spells_tuple) overflows_tuple
      fun item member => decided item
  | list items =>
    exact decided_items .list (by rw [Expr.evaluate]) (fun _ => spells_list) overflows_list
      fun item member => decided item
  | set items => exact decided_set fun item member => decided item
  | dict entries =>
    refine decided_dict ?_
    rintro ⟨key?, item⟩ member
    refine ⟨?_, decided item⟩
    rintro key rfl
    exact decided key
  | call function args keywords => exact decided_call
  | unary op operand => exact decided_unary
  | binary op left right => exact decided_binary
  | _ => exact unread rfl (by rintro ⟨_, ⟨⟩⟩) (by rintro ⟨⟩)
termination_by sizeOf expr
decreasing_by
  all_goals
    subst_vars
    have smaller := List.sizeOf_lt_of_mem member
    simp at smaller ⊢
    omega

theorem name_evaluate (id : String) : (Expr.name id).evaluate = .error .notLiteral := rfl

theorem literal_value {scope : Scope} : scope.literal expr = .ok (.value value) ↔
    Spells expr value ∨ ∃ id, expr = .name id ∧ bound? id scope.constants = some value := by
  rw [← (decided expr).ok]
  cases expr with
  | name id =>
    cases held : bound? id scope.constants <;> simp [Scope.literal, name_evaluate, held]
  | _ =>
    unfold Scope.literal
    split <;> simp_all

theorem literal_unknown {scope : Scope} : scope.literal expr = .ok .unknown ↔
    expr.evaluate = .error .notLiteral ∧ ∀ id, expr = .name id → bound? id scope.constants = none := by
  cases expr with
  | name id =>
    cases held : bound? id scope.constants <;> simp [Scope.literal, name_evaluate, held]
  | _ =>
    unfold Scope.literal
    split <;> simp_all

theorem literal_error {scope : Scope} :
    scope.literal expr = .error e ↔ e = .wholeTooLarge ∧ Overflows expr := by
  rw [← (decided expr).tooLarge, Expr.TooLarge]
  unfold Scope.literal
  cases expr.evaluate with
  | ok value => simp
  | error found =>
    cases found with
    | wholeTooLarge => simp [@eq_comm _ e]
    | notLiteral =>
      dsimp only
      split
      · split <;> simp
      · simp

theorem unread_iff : expr.evaluate = .error .notLiteral ↔ ¬ Literal expr ∧ ¬ Overflows expr := by
  simp only [Literal, ← (decided expr).ok, ← (decided expr).tooLarge, Expr.TooLarge]
  cases expr.evaluate with
  | ok value => simp
  | error e => cases e <;> simp

theorem remember_ok {scope : Scope} : scope.remember target expr = .ok next ↔
    (∃ id value, target = .name id ∧ Spells expr value ∧
      next = { scope with constants := rebind id value scope.constants }) ∨
    next = scope ∧ ((∀ id, target ≠ .name id) ∨ expr.evaluate = .error .notLiteral) := by
  simp only [← (decided expr).ok]
  cases target with
  | name id =>
    unfold Scope.remember
    cases expr.evaluate with
    | ok value => simp [@eq_comm _ next]
    | error e => cases e <;> simp [@eq_comm _ next]
  | _ => simp [Scope.remember, @eq_comm _ next]

theorem remember_error {scope : Scope} : scope.remember target expr = .error e ↔
    e = .wholeTooLarge ∧ (∃ id, target = .name id) ∧ Overflows expr := by
  rw [← (decided expr).tooLarge, Expr.TooLarge]
  cases target with
  | name id =>
    unfold Scope.remember
    cases expr.evaluate with
    | ok value => simp
    | error found => cases found <;> simp [@eq_comm _ e]
  | _ => simp [Scope.remember]

-- What is neither a literal nor a constant leaves the constants as they are. When a sum is out of
-- range, neither a value nor its absence is told.
theorem literal_outcomes (scope : Scope) (expr : Expr) :
    (∀ value, scope.literal expr = .ok (.value value) ↔ Spells expr value ∨
      ∃ id, expr = .name id ∧ bound? id scope.constants = some value) ∧
    (scope.literal expr = .ok .unknown ↔ (¬ Literal expr ∧ ¬ Overflows expr) ∧
      ∀ id, expr = .name id → bound? id scope.constants = none) ∧
    (∀ e, scope.literal expr = .error e ↔ e = .wholeTooLarge ∧ Overflows expr) ∧
    ∀ target,
      (∀ next, scope.remember target expr = .ok next ↔
        (∃ id value, target = .name id ∧ Spells expr value ∧
          next = { scope with constants := rebind id value scope.constants }) ∨
        next = scope ∧ ((∀ id, target ≠ .name id) ∨ ¬ Literal expr ∧ ¬ Overflows expr)) ∧
      ∀ e, scope.remember target expr = .error e ↔
        e = .wholeTooLarge ∧ (∃ id, target = .name id) ∧ Overflows expr := by
  rw [← unread_iff]
  exact ⟨fun _ => literal_value, literal_unknown, fun _ => literal_error,
    fun _ => ⟨fun _ => remember_ok, fun _ => remember_error⟩⟩

def farSum : Expr :=
  .binary .add (.constant (.int (10 ^ 400))) (.constant (.complex .zero (Double.ofInt 1)))

theorem farSum_overflows : Overflows farSum :=
  .sum (.plain rfl) (by rw [OutOfRange]; decide +kernel) (by decide)

theorem farSum_escapes :
    (Scope.empty "m" false).literal farSum = .error .wholeTooLarge ∧
    (Scope.empty "m" false).remember (.name "X") farSum = .error .wholeTooLarge :=
  ⟨literal_error.mpr ⟨rfl, farSum_overflows⟩, remember_error.mpr ⟨rfl, ⟨"X", rfl⟩, farSum_overflows⟩⟩

end EndpointCatalog.Source
