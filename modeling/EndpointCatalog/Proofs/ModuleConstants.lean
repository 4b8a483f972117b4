import EndpointCatalog.Proofs.DescribedTypes
import Mathlib

namespace EndpointCatalog.Source

-- The bodies of classes and functions are no part of a straight line.
def Straight : Stmt → Prop
  | .conditional .. | .attempt .. | .attemptGroup .. | .loop .. | .context .. | .choice .. => False
  | _ => True

theorem topLevel_straight (straight : ∀ statement ∈ body, Straight statement) :
    topLevel body = body := by
  induction body with
  | nil => simp [topLevel]
  | cons statement rest ih =>
    obtain ⟨own, others⟩ := List.forall_mem_cons.mp straight
    rw [topLevel_cons, ih others]
    cases statement with
    | conditional | attempt => exact own.elim
    | _ => simp [topLevel]

inductive AssignsLiteral (name : String) (value : Value) : Stmt → Prop where
  | plain (spelled : expr.evaluate = .ok value) :
      AssignsLiteral name value (.assign [.name name] expr)
  | annotated (spelled : expr.evaluate = .ok value) :
      AssignsLiteral name value (.annotated (.name name) (some expr))

-- A literal that the statement at some place of a body assigns to a name alone.
def AssignsAt (body : List Stmt) (place : Nat) (name : String) (value : Value) : Prop :=
  ∃ statement, body[place]? = some statement ∧ AssignsLiteral name value statement

structure LastLiteral (body : List Stmt) (place : Nat) (name : String) (value : Value) : Prop where
  assigns : AssignsAt body place name value
  last : ∀ later other, AssignsAt body later name other → later ≤ place

def constantEntries (value : Expr) : Expr → List (String × Value)
  | .name name =>
    match value.evaluate with
    | .ok literal => [(name, literal)]
    | .error _ => []
  | _ => []

def literalEntries : Stmt → List (String × Value)
  | .assign [target] value => constantEntries value target
  | .annotated target (some value) => constantEntries value target
  | _ => []

theorem mem_constantEntries :
    (name, literal) ∈ constantEntries value target ↔
      target = .name name ∧ value.evaluate = .ok literal := by
  unfold constantEntries
  split
  · split
    · rename_i own _ spelled
      simp [spelled, eq_comm]
    · rename_i spelled
      simp [spelled]
  · rename_i other
    constructor
    · intro entry
      cases entry
    · rintro ⟨rfl, -⟩
      exact absurd rfl (other name)

theorem mem_literalEntries :
    (name, value) ∈ literalEntries statement ↔ AssignsLiteral name value statement := by
  constructor
  · intro entry
    unfold literalEntries at entry
    split at entry
    · obtain ⟨rfl, spelled⟩ := mem_constantEntries.mp entry
      exact .plain spelled
    · obtain ⟨rfl, spelled⟩ := mem_constantEntries.mp entry
      exact .annotated spelled
    · cases entry
  · rintro (spelled | spelled)
    · exact mem_constantEntries.mpr ⟨rfl, spelled⟩
    · exact mem_constantEntries.mpr ⟨rfl, spelled⟩

theorem assignsAt_append :
    AssignsAt (body ++ [statement]) place name value ↔
      AssignsAt body place name value ∨
        place = body.length ∧ AssignsLiteral name value statement := by
  unfold AssignsAt
  rw [List.getElem?_append]
  rcases Nat.lt_trichotomy place body.length with inside | rfl | behind
  · simp [inside, inside.ne]
  · simp
  · obtain ⟨further, rfl⟩ := Nat.exists_eq_add_of_lt behind
    simp [Nat.add_assoc]

theorem assignsAt_inside (assigns : AssignsAt body place name value) : place < body.length := by
  obtain ⟨statement, found, -⟩ := assigns
  exact (List.getElem?_eq_some_iff.mp found).1

theorem assignsLiteral_unique (one : AssignsLiteral name first statement)
    (other : AssignsLiteral name second statement) : first = second := by
  rcases one with spelled | spelled <;> rcases other with again | again
  all_goals exact Except.ok.inj (spelled.symm.trans again)

theorem bound_literalEntries :
    bound? name (literalEntries statement).reverse = some value ↔
      AssignsLiteral name value statement := by
  constructor
  · intro bound
    exact mem_literalEntries.mp (List.mem_reverse.mp (bound_mem bound))
  · intro assigns
    refine bound_agreed (List.mem_reverse.mpr (mem_literalEntries.mpr assigns)) ?_
    intro other entry
    exact assignsLiteral_unique (mem_literalEntries.mp (List.mem_reverse.mp entry)) assigns

theorem bound_lastLiteral :
    bound? name (body.flatMap literalEntries).reverse = some value ↔
      ∃ place, LastLiteral body place name value := by
  -- From the right: the last statement that assigns a literal to the name decides.
  induction body using List.reverseRecOn with
  | nil =>
    constructor
    · intro bound
      cases bound
    · rintro ⟨place, ⟨statement, found, -⟩, -⟩
      cases found
  | append_singleton body statement ih =>
    rw [List.flatMap_append, List.reverse_append, bound_append, List.flatMap_singleton]
    cases own : bound? name (literalEntries statement).reverse with
    | none =>
      have silent : ∀ literal, ¬ AssignsLiteral name literal statement := by
        intro literal assigns
        rw [bound_literalEntries.mpr assigns] at own
        cases own
      have same : ∀ place literal, AssignsAt (body ++ [statement]) place name literal ↔
          AssignsAt body place name literal := by
        intro place literal
        rw [assignsAt_append, or_iff_left fun behind => silent literal behind.2]
      rw [Option.none_or, ih]
      refine exists_congr fun place => ?_
      constructor
      · rintro ⟨assigns, last⟩
        exact ⟨(same place value).mpr assigns, fun later other held =>
          last later other ((same later other).mp held)⟩
      · rintro ⟨assigns, last⟩
        exact ⟨(same place value).mp assigns, fun later other held =>
          last later other ((same later other).mpr held)⟩
    | some literal =>
      have assigns := bound_literalEntries.mp own
      rw [Option.some_or, Option.some_inj]
      constructor
      · rintro rfl
        refine ⟨body.length, assignsAt_append.mpr (.inr ⟨rfl, assigns⟩), fun later other held => ?_⟩
        rcases assignsAt_append.mp held with inside | ⟨rfl, -⟩
        · exact (assignsAt_inside inside).le
        · exact le_rfl
      · rintro ⟨place, held, last⟩
        have final := last body.length literal (assignsAt_append.mpr (.inr ⟨rfl, assigns⟩))
        rcases assignsAt_append.mp held with inside | ⟨-, again⟩
        · exact absurd (assignsAt_inside inside) final.not_gt
        · exact assignsLiteral_unique assigns again

theorem bound_noLiteral :
    bound? name (body.flatMap literalEntries).reverse = none ↔
      ∀ place value, ¬ AssignsAt body place name value := by
  constructor
  · rintro unbound place value ⟨statement, found, assigns⟩
    have entry : (name, value) ∈ (body.flatMap literalEntries).reverse :=
      List.mem_reverse.mpr (List.mem_flatMap.mpr
        ⟨statement, List.mem_of_getElem? found, mem_literalEntries.mpr assigns⟩)
    simpa using List.find?_eq_none.mp (Option.map_eq_none_iff.mp unbound) _ entry
  · intro never
    rw [Option.eq_none_iff_forall_ne_some]
    intro value bound
    obtain ⟨place, assigns, -⟩ := bound_lastLiteral.mp bound
    exact never place value assigns

namespace Scope

variable {scope next : Scope}

theorem remember_entries (remembered : scope.remember target value = .ok next) :
    next.constants = rebindAll (constantEntries value target) scope.constants := by
  cases target with
  | name name =>
    simp only [remember, constantEntries] at remembered ⊢
    cases spelled : value.evaluate with
    | ok literal =>
      rw [spelled] at remembered
      cases remembered
      rfl
    | error e =>
      rw [spelled] at remembered
      cases e with
      | notLiteral =>
        cases remembered
        rfl
      | wholeTooLarge => cases remembered
  | _ =>
    cases remembered
    rfl

theorem constants_addImport : (scope.addImport name target).constants = scope.constants := rfl

theorem step_constants (stepped : scope.step statement = .ok next) :
    next.constants = rebindAll (literalEntries statement) scope.constants := by
  unfold step at stepped
  split at stepped
  · cases stepped
    exact Symbol.foldl_keeps Scope.constants fun _ imported => by cases imported.localName <;> rfl
  · cases stepped
    exact Symbol.foldl_keeps Scope.constants fun _ _ => constants_addImport
  · cases stepped
    rfl
  · cases stepped
    split <;> rfl
  · exact remember_entries stepped
  · exact remember_entries stepped
  · rename_i single annotates
    cases stepped
    unfold literalEntries
    split
    · exact absurd rfl (single _ _)
    · exact absurd rfl (annotates _ _)
    · rfl

theorem steps_constants {statements : List Stmt} (stepped : statements.foldlM step scope = .ok next) :
    next.constants = rebindAll (statements.flatMap literalEntries) scope.constants := by
  induction statements generalizing scope with
  | nil =>
    cases stepped
    rfl
  | cons statement rest ih =>
    rw [List.foldlM_cons] at stepped
    obtain ⟨middle, own, later⟩ := bind_ok stepped
    rw [ih later, step_constants own, List.flatMap_cons, rebindAll_append]

theorem ofModule_constants (opened : ofModule outer isPackage body = .ok scope) :
    bound? name scope.constants = bound? name ((topLevel body).flatMap literalEntries).reverse := by
  rw [steps_constants opened, bound_rebindAll]
  exact Option.or_none

-- A name is no literal itself, so that it is looked for among the constants.
theorem literal_name :
    scope.literal (.name name) =
      .ok ((bound? name scope.constants).elim .unknown Argument.value) := by
  unfold literal
  rw [show (Expr.name name).evaluate = .error .notLiteral by simp [Expr.evaluate]]
  dsimp only
  cases bound? name scope.constants <;> rfl

end Scope

def Expr.parts : Expr → List Expr
  | .attribute value _ | .starred value | .unary _ value | .named _ value => [value]
  | .subscript first second | .binary _ first second => [first, second]
  | .call function args keywords => function :: args ++ keywords.map (·.2)
  | .tuple items | .list items | .set items => items
  | .dict entries => entries.flatMap fun (key, value) => key.toList ++ [value]
  | _ => []

inductive BindsWithin (name : String) : Expr → Prop where
  | here : BindsWithin name (.named name value)
  | deeper (part : expr ∈ outer.parts) (inside : BindsWithin name expr) : BindsWithin name outer

-- An expression that a name is a target in.
inductive Targets (name : String) : Expr → Prop where
  | here : Targets name (.name name)
  | starred (inside : Targets name value) : Targets name (.starred value)
  | tuple (member : item ∈ items) (inside : Targets name item) : Targets name (.tuple items)
  | list (member : item ∈ items) (inside : Targets name item) : Targets name (.list items)

def expressionsOf : Stmt → List Expr
  | .assign targets value => value :: targets
  | .annotated target value => target :: value.toList
  | .augmented target value => [target, value]
  | .delete targets => targets
  | .expr value => [value]
  | .classDef _ _ bases decorators _ => bases ++ decorators.map (·.expr)
  | .functionDef _ _ _ _ decorators _ => decorators.map (·.expr)
  | _ => []

inductive Rebinds (name : String) : Stmt → Prop where
  | imported (listed : name ∈ importedNames statement) : Rebinds name statement
  | ofClass : Rebinds name (.classDef line name bases decorators block)
  | ofFunction : Rebinds name (.functionDef line isAsync name parameters decorators block)
  | assigned (member : target ∈ targets) (inside : Targets name target) :
      Rebinds name (.assign targets value)
  | annotated (inside : Targets name target) : Rebinds name (.annotated target (some value))
  | augmented (inside : Targets name target) : Rebinds name (.augmented target value)
  | deleted (member : target ∈ targets) (inside : Targets name target) :
      Rebinds name (.delete targets)
  | within (member : expr ∈ expressionsOf statement) (inside : BindsWithin name expr) :
      Rebinds name statement

def RebindsAt (body : List Stmt) (name : String) (place : Nat) : Prop :=
  ∃ statement, body[place]? = some statement ∧ Rebinds name statement

theorem assignsLiteral_rebinds (assigns : AssignsLiteral name value statement) :
    Rebinds name statement := by
  rcases assigns with spelled | spelled
  · exact .assigned List.mem_cons_self .here
  · exact .annotated .here

-- The last of some places in front of a place.
structure LastBefore (binds : Nat → Prop) (place last : Nat) : Prop where
  early : last < place
  holds : binds last
  quiet : ∀ later, last < later → later < place → ¬ binds later

-- Nothing assigns a literal to the name behind the class, and nothing else binds it between the
-- last such assignment and the class.
structure Steady (body : List Stmt) (binds : Nat → Prop) (place : Nat) (name : String) : Prop where
  front : ∀ later value, place < later → ¬ AssignsAt body later name value
  kept : ∀ index value, LastLiteral body index name value →
    ∀ later, index < later → later < place → ¬ binds later

theorem steady_last {body : List Stmt} (steady : Steady body binds place name)
    (stands : body[place]? = some (.classDef line own bases decorators block))
    (shown : ∀ index statement, body[index]? = some statement → Rebinds name statement → binds index)
    (literal : LastLiteral body index name value) : LastBefore binds place index := by
  obtain ⟨statement, found, assigns⟩ := literal.assigns
  have early : index < place := by
    rcases Nat.lt_trichotomy index place with before | rfl | behind
    · exact before
    · rw [stands] at found
      cases found
      cases assigns
    · exact absurd literal.assigns (steady.front index value behind)
  exact ⟨early, shown index statement found (assignsLiteral_rebinds assigns),
    steady.kept index value literal⟩

theorem lastLiteral_exists {body : List Stmt} (assigns : AssignsAt body index name value) :
    ∃ last literal, LastLiteral body last name literal := by
  cases bound : bound? name (body.flatMap literalEntries).reverse with
  | none => exact absurd assigns (bound_noLiteral.mp bound index value)
  | some literal =>
    obtain ⟨last, final⟩ := bound_lastLiteral.mp bound
    exact ⟨last, literal, final⟩

theorem assignsAt_unique {body : List Stmt} (one : AssignsAt body place name first)
    (other : AssignsAt body place name second) : first = second := by
  obtain ⟨statement, found, assigns⟩ := one
  obtain ⟨again, same, others⟩ := other
  rw [found] at same
  cases same
  exact assignsLiteral_unique assigns others

theorem lastBefore_unique (one : LastBefore binds place first) (other : LastBefore binds place second) :
    first = second := by
  rcases Nat.lt_trichotomy first second with before | same | behind
  · exact absurd other.holds (one.quiet second before other.early)
  · exact same
  · exact absurd one.holds (other.quiet first behind one.early)

theorem recorded_literal {body : List Stmt} (straight : ∀ statement ∈ body, Straight statement)
    (opened : Scope.ofModule outer isPackage body = .ok scope)
    (read : scope.literal (.name name) = .ok argument) :
    (∀ value, argument = .value value ↔ ∃ index, LastLiteral body index name value) ∧
      (argument = .unknown ↔ ∀ index value, ¬ AssignsAt body index name value) := by
  rw [Scope.literal_name, Scope.ofModule_constants opened, topLevel_straight straight] at read
  cases read
  simp only [← bound_lastLiteral, ← bound_noLiteral]
  cases bound? name (body.flatMap literalEntries).reverse <;> simp

end EndpointCatalog.Source

namespace EndpointCatalog.Symbol

open Files (Path)
open Source (Scope Stmt Expr Decorator Argument bound? bound_rebindAll AssignsAt LastLiteral Straight
  Rebinds RebindsAt LastBefore Steady recorded_literal steady_last lastLiteral_exists lastBefore_unique
  assignsAt_unique)

inductive Keeps (decorator : Decorator) (marker : Marker) (value : Expr) (argument : Argument) :
    Prop where
  | positional (place : Nat) (given : (positionalArguments decorator.expr)[place]? = some value)
      (kept : marker.args[place]? = some argument)
  | keyword (key : String) (given : bound? key (keywordArguments decorator.expr).reverse = some value)
      (kept : bound? key marker.keywords = some argument)

variable {scope : Scope} {decorator : Decorator} {marker : Marker}

theorem keywords_keep (read : KeywordsRead scope given entries)
    (one : bound? key given = some value) (other : bound? key entries = some argument) :
    scope.literal value = .ok argument := by
  induction read with
  | nil => cases one
  | @cons keyword entry rest others own _ ih =>
    obtain ⟨key', value'⟩ := keyword
    obtain ⟨key'', argument'⟩ := entry
    obtain ⟨rfl, spelled⟩ := own
    by_cases same : key' = key
    · simp [bound?, same] at one other
      rw [← one, ← other]
      exact spelled
    · simp [bound?, same] at one other
      exact ih (by simpa [bound?] using one) (by simpa [bound?] using other)

theorem marks_keeps (marks : Marks scope decorator marker)
    (keeps : Keeps decorator marker value argument) : scope.literal value = .ok argument := by
  cases keeps with
  | positional place given kept =>
    obtain ⟨inside, rfl⟩ := List.getElem?_eq_some_iff.mp given
    obtain ⟨within, rfl⟩ := List.getElem?_eq_some_iff.mp kept
    exact marks.args.get inside within
  | keyword key given kept =>
    obtain ⟨entries, read, same⟩ := marks.keywords
    rw [same, bound_rebindAll] at kept
    have nothing : bound? key ([] : List (String × Argument)) = none := rfl
    rw [nothing, Option.or_none] at kept
    exact keywords_keep (List.forall₂_reverse_iff.mpr read) given kept

-- The last literal counts in whatever place it stands, and it is what the name stands for at a
-- class that has nothing of this behind it and no other binding in between. Of the statements that
-- bind the name at least those count whose trees show it.
theorem arguments_constant {body : List Stmt} {binds : Nat → Prop}
    (straight : ∀ statement ∈ body, Straight statement)
    (opened : Scope.ofModule home isPackage body = .ok scope)
    (stands : body[place]? = some (.classDef line own bases decorators block))
    (made : TypeDecl.ofClass scope path home line own bases decorators block = .ok type)
    (shown : ∀ index statement, body[index]? = some statement → Rebinds name statement → binds index)
    (member : (decorator, marker) ∈ markedWithin scope decorators block type)
    (keeps : Keeps decorator marker (.name name) argument) :
    (∀ value, argument = .value value ↔ ∃ index, LastLiteral body index name value) ∧
    (Steady body binds place name →
      (∀ value, argument = .value value ↔
        ∃ index, LastBefore binds place index ∧ AssignsAt body index name value) ∧
      (argument = .unknown ↔
        ∀ index, LastBefore binds place index → ∀ value, ¬ AssignsAt body index name value)) := by
  obtain ⟨valued, unvalued⟩ := recorded_literal straight opened
    (marks_keeps (markedWithin_marks made member) keeps)
  refine ⟨valued, fun steady => ⟨fun value => ?_, ?_⟩⟩
  · rw [valued]
    constructor
    · rintro ⟨index, literal⟩
      exact ⟨index, steady_last steady stands shown literal, literal.assigns⟩
    · rintro ⟨index, last, assigns⟩
      obtain ⟨final, other, literal⟩ := lastLiteral_exists assigns
      obtain rfl := lastBefore_unique (steady_last steady stands shown literal) last
      obtain rfl := assignsAt_unique literal.assigns assigns
      exact ⟨final, literal⟩
  · rw [unvalued]
    constructor
    · exact fun never index _ value => never index value
    · intro apart index value assigns
      obtain ⟨final, other, literal⟩ := lastLiteral_exists assigns
      exact apart final (steady_last steady stands shown literal) other literal.assigns

def reassignedDecorator : Decorator := ⟨.call (.name "route") [.name "X", .name "Y"] [], 5⟩

def reassignedBody : List Stmt :=
  [.assign [.name "X"] (.constant (.str "/a")),
    .augmented (.name "X") (.call (.name "make") [] []),
    .assign [.name "X"] (.constant (.str "/b")),
    .importModules [⟨"os", none⟩],
    .classDef 6 "A" [] [reassignedDecorator] [.other]]

def reassignedPath : Path := ⟨.relative, ["m.py"]⟩

def reassignedScope : Scope := ⟨"m", "", [("os", "os")], ["A"], [("X", .str "/b")], []⟩

def reassignedMarker : Marker := ⟨"route", [.value (.str "/b"), .unknown], [], 5⟩

def reassignedType : TypeDecl :=
  ⟨"m.A", "A", "m", [], [reassignedMarker], [], none, some reassignedPath, 6⟩

theorem reassigned_made :
    TypeDecl.ofClass reassignedScope reassignedPath "m" 6 "A" [] [reassignedDecorator] [.other] =
      .ok reassignedType := by
  unfold reassignedDecorator reassignedScope
  cbv

theorem reassigned_marked :
    (reassignedDecorator, reassignedMarker) ∈
      markedWithin reassignedScope [reassignedDecorator] [.other] reassignedType := by
  simp [markedWithin, markedOf, namingDecorators, reassignedType, reassignedDecorator, typeExpr,
    Scope.resolve, reassignedScope, bound?, functionsOf, functionHead?]

theorem reassigned_steady : Steady reassignedBody (RebindsAt reassignedBody "X") 4 "X" := by
  refine ⟨fun later value behind assigns => ?_, fun index value literal later behind early binds => ?_⟩
  · have inside : later < 5 := Source.assignsAt_inside assigns
    omega
  · have second : AssignsAt reassignedBody 2 "X" (.str "/b") :=
      ⟨_, rfl, .plain (by simp [Expr.evaluate, Source.Value.str])⟩
    have least := literal.last 2 _ second
    obtain rfl : later = 3 := by omega
    obtain ⟨statement, ⟨⟩, rebinds⟩ := binds
    cases rebinds with
    | imported listed => exact absurd listed (by decide)
    | within member => cases member

theorem reassigned_recorded :
    Scope.ofModule "m" false reassignedBody = .ok reassignedScope ∧
    TypeDecl.ofClass reassignedScope reassignedPath "m" 6 "A" [] [reassignedDecorator] [.other] =
      .ok reassignedType ∧
    ∃ index, LastBefore (RebindsAt reassignedBody "X") 4 index ∧
      AssignsAt reassignedBody index "X" (.str "/b") := by
  have straight : ∀ statement ∈ reassignedBody, Straight statement := by
    simp [reassignedBody, Straight]
  have opened : Scope.ofModule "m" false reassignedBody = .ok reassignedScope := by cbv
  have stands : reassignedBody[4]? = some (.classDef 6 "A" [] [reassignedDecorator] [.other]) := rfl
  have shown : ∀ index statement, reassignedBody[index]? = some statement → Rebinds "X" statement →
      RebindsAt reassignedBody "X" index :=
    fun index statement found rebinds => ⟨statement, found, rebinds⟩
  obtain ⟨-, known⟩ := arguments_constant straight opened stands reassigned_made shown
    reassigned_marked (.positional 0 rfl rfl)
  exact ⟨opened, reassigned_made, ((known reassigned_steady).1 (.str "/b")).mp rfl⟩

def staleBody : List Stmt :=
  [.assign [.name "X"] (.constant (.str "/a")),
    .assign [.name "X"] (.call (.name "make") [] []),
    .classDef 4 "A" [] [⟨.call (.name "route") [.name "X"] [], 3⟩] [.other]]

def staleScope : Scope := ⟨"m", "", [], ["A"], [("X", .str "/a")], []⟩

theorem stale_recorded :
    (∀ statement ∈ staleBody, Straight statement) ∧
    Scope.ofModule "m" false staleBody = .ok staleScope ∧
    LastBefore (RebindsAt staleBody "X") 2 1 ∧ (∀ value, ¬ AssignsAt staleBody 1 "X" value) ∧
    (TypeDecl.ofClass staleScope reassignedPath "m" 4 "A" []
        [⟨.call (.name "route") [.name "X"] [], 3⟩] [.other]).map (·.markers) =
      .ok [⟨"route", [.value (.str "/a")], [], 3⟩] := by
  refine ⟨by simp [staleBody, Straight], by cbv, ⟨by decide, ?_, fun later behind early => ?_⟩, ?_, ?_⟩
  · exact ⟨_, rfl, .assigned List.mem_cons_self .here⟩
  · omega
  · rintro value ⟨statement, ⟨⟩, spelled | spelled⟩
    simp [Expr.evaluate, Expr.isName] at spelled
  · unfold staleScope
    cbv

end EndpointCatalog.Symbol
