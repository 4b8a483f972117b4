import EndpointCatalog.Proofs.ImportedNames

namespace EndpointCatalog.Text

def Component (part : String) : Prop := part ≠ "" ∧ Undotted part

instance (part : String) : Decidable (Component part) := inferInstanceAs (Decidable (_ ∧ _))

theorem components_named (clean : ∀ part ∈ parts, Component part) (some : parts ≠ []) :
    components (joinDots parts) = parts :=
  components_joinDots (fun part member => (clean part member).2) some

theorem joinDots_named (clean : ∀ part ∈ parts, Component part) (some : parts ≠ []) :
    joinDots parts ≠ "" := by
  intro empty
  have whole := components_named clean some
  rw [empty] at whole
  have nothing : "" ∈ parts := by
    rw [← whole]
    decide
  exact (clean "" nothing).1 rfl

theorem qualify_parts (named : joinDots outer ≠ "") (some : parts ≠ []) :
    qualify (joinDots outer) (joinDots parts) = joinDots (outer ++ parts) := by
  have front : outer ≠ [] := by
    rintro rfl
    exact named rfl
  rw [qualify, if_neg named, joinDots_append front some]

end EndpointCatalog.Text

namespace EndpointCatalog.Source

open Text (qualify firstName)

-- The blocks of a statement that belong to the top level when the statement does.
def openBlocks : Stmt → List (List Stmt)
  | .conditional _ body orelse => [body, orelse]
  | .attempt body handlers orelse final => body :: handlers.map (·.2) ++ [orelse, final]
  | _ => []

inductive Stands (blocks : Stmt → List (List Stmt)) (statement : Stmt) : List Stmt → Prop where
  | here (member : statement ∈ body) : Stands blocks statement body
  | inside (member : outer ∈ body) (block : nested ∈ blocks outer)
      (below : Stands blocks statement nested) : Stands blocks statement body

section

variable {blocks : Stmt → List (List Stmt)}

theorem stands_nil : ¬ Stands blocks statement [] := by
  rintro (member | ⟨member, -, -⟩) <;> cases member

theorem stands_cons :
    Stands blocks statement (first :: rest) ↔
      statement = first ∨ (∃ nested ∈ blocks first, Stands blocks statement nested) ∨
        Stands blocks statement rest := by
  constructor
  · rintro (member | ⟨member, block, below⟩)
    · rcases List.mem_cons.mp member with same | later
      · exact .inl same
      · exact .inr (.inr (.here later))
    · rcases List.mem_cons.mp member with rfl | later
      · exact .inr (.inl ⟨_, block, below⟩)
      · exact .inr (.inr (.inside later block below))
  · rintro (rfl | ⟨nested, block, below⟩ | behind)
    · exact .here List.mem_cons_self
    · exact .inside List.mem_cons_self block below
    · cases behind with
      | here member => exact .here (List.mem_cons_of_mem _ member)
      | inside member block below => exact .inside (List.mem_cons_of_mem _ member) block below

end

theorem body_nested {P : List Stmt → Prop} (nil : P [])
    (cons : ∀ first rest, (∀ nested ∈ openBlocks first, P nested) → P rest → P (first :: rest))
    (body : List Stmt) : P body := by
  refine topLevel.induct P (fun handlers => ∀ handler ∈ handlers, P handler.2) nil ?_ ?_ ?_ ?_ ?_ body
  · intro test body orelse rest first second later
    exact cons _ rest (by simpa [openBlocks] using ⟨first, second⟩) later
  · intro body handlers orelse final rest first caught second last later
    have held : ∀ nested ∈ handlers.map (·.2), P nested := by
      intro nested member
      obtain ⟨handler, listed, rfl⟩ := List.mem_map.mp member
      exact caught handler listed
    refine cons _ rest (List.forall_mem_append.mpr ⟨?_, ?_⟩) later
    · exact List.forall_mem_cons.mpr ⟨first, held⟩
    · simpa using ⟨second, last⟩
  · intro statement rest conditional attempt later
    refine cons statement rest ?_ later
    cases statement with
    | conditional => exact (conditional _ _ _ rfl).elim
    | attempt => exact (attempt _ _ _ _ rfl).elim
    | _ => simp [openBlocks]
  · intro handler member
    cases member
  · intro bound body rest own others handler member
    rcases List.mem_cons.mp member with rfl | later
    · exact own
    · exact others handler later

variable {statement : Stmt} {body : List Stmt}

theorem mem_topLevel_cons :
    statement ∈ topLevel (first :: rest) ↔
      (statement = first ∧ Whole first ∨ ∃ nested ∈ openBlocks first, statement ∈ topLevel nested) ∨
        statement ∈ topLevel rest := by
  rw [topLevel_cons, List.mem_append]
  refine or_congr_left ?_
  cases first with
  | attempt body handlers orelse final =>
    have caught : (∃ nested ∈ handlers.map (·.2), statement ∈ topLevel nested) ↔
        ∃ handler ∈ handlers, statement ∈ topLevel handler.2 := by
      constructor
      · rintro ⟨nested, member, below⟩
        obtain ⟨handler, listed, rfl⟩ := List.mem_map.mp member
        exact ⟨handler, listed, below⟩
      · rintro ⟨handler, listed, below⟩
        exact ⟨handler.2, List.mem_map_of_mem listed, below⟩
    simp [topLevel, openBlocks, Whole, topLevelOfHandlers_mem, or_and_right, exists_or, -List.mem_map,
      caught]
  | _ => simp [topLevel, openBlocks, Whole]

theorem mem_topLevel :
    statement ∈ topLevel body ↔ Stands openBlocks statement body ∧ Whole statement := by
  induction body using body_nested with
  | nil => simp [topLevel, stands_nil]
  | cons first rest nested later =>
    have own : statement = first ∧ Whole first ↔ statement = first ∧ Whole statement :=
      and_congr_right fun same => by rw [same]
    have below : (∃ block ∈ openBlocks first, statement ∈ topLevel block) ↔
        (∃ block ∈ openBlocks first, Stands openBlocks statement block) ∧ Whole statement := by
      rw [← exists_and_right]
      refine exists_congr fun block => ?_
      rw [and_assoc]
      exact and_congr_right fun member => nested block member
    rw [mem_topLevel_cons, stands_cons, own, below, later, or_and_right, or_and_right, or_assoc]

def rebindAll {α : Type} (entries bindings : List (String × α)) : List (String × α) :=
  entries.foldl (fun bindings (name, value) => rebind name value bindings) bindings

theorem rebindAll_append {α : Type} {first second bindings : List (String × α)} :
    rebindAll (first ++ second) bindings = rebindAll second (rebindAll first bindings) :=
  List.foldl_append

theorem bound_append {α : Type} {first second : List (String × α)} :
    bound? name (first ++ second) = (bound? name first).or (bound? name second) := by
  simp [bound?, List.find?_append, Option.map_or]

theorem bound_rebindAll {α : Type} {entries bindings : List (String × α)} :
    bound? name (rebindAll entries bindings) =
      (bound? name entries.reverse).or (bound? name bindings) := by
  induction entries generalizing bindings with
  | nil => rfl
  | cons entry rest ih =>
    obtain ⟨key, value⟩ := entry
    have onward : rebindAll ((key, value) :: rest) bindings =
      rebindAll rest (rebind key value bindings) := rfl
    rw [onward, ih, bound_rebind, List.reverse_cons, bound_append, Option.or_assoc]
    by_cases same : key = name <;> simp [bound?, same]

theorem bound_absent {α : Type} {entries : List (String × α)}
    (absent : ∀ entry ∈ entries, entry.1 ≠ name) : bound? name entries = none := by
  simpa [bound?] using absent

theorem bound_mem {α : Type} {entries : List (String × α)} {value : α}
    (bound : bound? name entries = some value) : (name, value) ∈ entries := by
  obtain ⟨entry, found, rfl⟩ := Option.map_eq_some_iff.mp bound
  have same : entry.1 = name := by simpa using List.find?_some found
  rw [← same]
  exact List.mem_of_find?_eq_some found

theorem bound_agreed {α : Type} {entries : List (String × α)} {value : α}
    (member : (name, value) ∈ entries) (alone : ∀ other, (name, other) ∈ entries → other = value) :
    bound? name entries = some value := by
  cases bound : bound? name entries with
  | none =>
    have absent := List.find?_eq_none.mp (Option.map_eq_none_iff.mp bound) _ member
    simp at absent
  | some other => rw [alone other (bound_mem bound)]

def importedNames : Stmt → List String
  | .importModules names =>
    names.map fun imported => imported.localName.getD (firstName imported.name)
  | .importFrom _ names => names.map fun imported => imported.localName.getD imported.name
  | _ => []

-- The last import of the top level that binds a name.
def BindsLast (body : List Stmt) (statement : Stmt) (name : String) : Prop :=
  ∃ before after, topLevel body = before ++ statement :: after ∧
    ∀ later ∈ after, name ∉ importedNames later

namespace Scope

def importEntries (scope : Scope) : Stmt → List (String × String)
  | .importModules names => names.map fun imported =>
    match imported.localName with
    | some name => (name, imported.name)
    | none => (firstName imported.name, firstName imported.name)
  | .importFrom source names => names.map fun imported =>
    (imported.localName.getD imported.name, qualify (scope.absolute source) imported.name)
  | _ => []

variable {scope next : Scope}

theorem importEntries_package (same : next.package = scope.package) :
    next.importEntries = scope.importEntries := by
  funext statement
  cases statement <;> simp [importEntries, absolute, same]

theorem importEntries_whole (entry : (name, target) ∈ scope.importEntries statement) :
    Whole statement := by
  cases statement with
  | conditional | attempt => simp [importEntries] at entry
  | _ => trivial

theorem addImports_entries {add : Scope → ImportedName → Scope}
    (entry : ImportedName → String × String)
    (adds : ∀ (state : Scope) imported, state.package = scope.package →
      add state imported = state.addImport (entry imported).1 (entry imported).2)
    (names : List ImportedName) :
    names.foldl add scope =
      { scope with imports := rebindAll (names.map entry) scope.imports } := by
  induction names generalizing scope with
  | nil => rfl
  | cons imported rest ih =>
    rw [List.foldl_cons, adds scope imported rfl]
    exact ih adds

theorem step_imports (stepped : scope.step statement = .ok next) :
    next.package = scope.package ∧
      next.imports = rebindAll (scope.importEntries statement) scope.imports := by
  unfold step at stepped
  split at stepped
  · cases stepped
    rw [addImports_entries fun imported => match imported.localName with
      | some name => (name, imported.name)
      | none => (firstName imported.name, firstName imported.name)]
    · exact ⟨rfl, rfl⟩
    · intro state imported _
      cases imported.localName <;> rfl
  · rename_i source names
    cases stepped
    rw [addImports_entries fun imported =>
      (imported.localName.getD imported.name, qualify (scope.absolute source) imported.name)]
    · exact ⟨rfl, rfl⟩
    · intro state imported same
      simp only [absolute, same]
  · cases stepped
    exact ⟨rfl, rfl⟩
  · cases stepped
    split <;> exact ⟨rfl, rfl⟩
  · obtain ⟨constants, rfl⟩ := remember_constants stepped
    exact ⟨rfl, rfl⟩
  · obtain ⟨constants, rfl⟩ := remember_constants stepped
    exact ⟨rfl, rfl⟩
  · rename_i modules names _ _ _ _
    cases stepped
    have none : scope.importEntries statement = [] := by
      unfold importEntries
      split
      · exact absurd rfl (modules _)
      · exact absurd rfl (names _ _)
      · rfl
    rw [none]
    exact ⟨rfl, rfl⟩

theorem steps_imports {statements : List Stmt} (stepped : statements.foldlM step scope = .ok next) :
    next.imports = rebindAll (statements.flatMap scope.importEntries) scope.imports := by
  induction statements generalizing scope with
  | nil =>
    cases stepped
    rfl
  | cons statement rest ih =>
    rw [List.foldlM_cons] at stepped
    obtain ⟨middle, first, later⟩ := bind_ok stepped
    obtain ⟨same, bound⟩ := step_imports first
    rw [ih later, bound, importEntries_package same, List.flatMap_cons, rebindAll_append]

theorem importEntries_names :
    (scope.importEntries statement).map (·.1) = importedNames statement := by
  cases statement with
  | importModules names =>
    rw [importEntries, importedNames, List.map_map, List.map_inj_left]
    intro imported _
    cases renamed : imported.localName <;> simp [renamed]
  | importFrom source names => simp [importEntries, importedNames]
  | _ => rfl

def moduleEntries (outer : String) (isPackage : Bool) (body : List Stmt) : List (String × String) :=
  (topLevel body).flatMap (empty outer isPackage).importEntries

theorem ofModule_imports (opened : ofModule outer isPackage body = .ok scope) :
    bound? name scope.imports = bound? name (moduleEntries outer isPackage body).reverse := by
  rw [steps_imports opened, bound_rebindAll]
  exact Option.or_none

def lastImport (outer : String) (isPackage : Bool) (statements : List Stmt) (name : String) :
    Option String :=
  bound? name (statements.flatMap (empty outer isPackage).importEntries).reverse

theorem lastImport_append :
    lastImport outer isPackage (first ++ second) name =
      (lastImport outer isPackage second name).or (lastImport outer isPackage first name) := by
  rw [lastImport, List.flatMap_append, List.reverse_append, bound_append]
  rfl

theorem lastImport_none {statements : List Stmt}
    (silent : ∀ statement ∈ statements, name ∉ importedNames statement) :
    lastImport outer isPackage statements name = none := by
  refine bound_absent fun entry member same => ?_
  obtain ⟨statement, listed, inside⟩ := List.mem_flatMap.mp (List.mem_reverse.mp member)
  refine silent statement listed ?_
  rw [← same, ← (empty outer isPackage).importEntries_names]
  exact List.mem_map_of_mem inside

theorem bound_lastImport (opened : ofModule outer isPackage body = .ok scope)
    (last : BindsLast body statement name)
    (own : bound? name ((empty outer isPackage).importEntries statement).reverse = some target) :
    bound? name scope.imports = some target := by
  obtain ⟨before, after, parts, silent⟩ := last
  have behind : bound? name (after.flatMap (empty outer isPackage).importEntries).reverse = none :=
    lastImport_none silent
  rw [ofModule_imports opened, moduleEntries, parts, List.flatMap_append, List.flatMap_cons,
    List.reverse_append, List.reverse_append, bound_append, bound_append, behind, own]
  rfl

end Scope

end EndpointCatalog.Source
