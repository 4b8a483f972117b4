import EndpointCatalog.Proofs.Outcomes
import EndpointCatalog.Symbol.Intake

namespace EndpointCatalog.Symbol

open Files (Path Tree)
open Source (Scope Stmt)
open Text (qualify)

-- What a condition, an attempt or a function holds is not reached.
inductive Reached : String → List Stmt → String → Prop where
  | here : Reached outer (.classDef line name bases decorators body :: rest) (qualify outer name)
  | inside (below : Reached (qualify outer name) body qualname) :
      Reached outer (.classDef line name bases decorators body :: rest) qualname
  | later (behind : Reached outer rest qualname) : Reached outer (statement :: rest) qualname

variable {scope : Scope} {path : Path} {table after : Table}

theorem ofClass_qualname
    (made : TypeDecl.ofClass scope path outer line name bases decorators body = .ok type) :
    type.qualname = qualify outer name := by
  unfold TypeDecl.ofClass at made
  cases marked : markersOf scope decorators with
  | error e => simp [marked, bind, Except.bind] at made
  | ok markers =>
    cases found : methodsOf scope body with
    | error e => simp [marked, found, bind, Except.bind] at made
    | ok members =>
      simp only [marked, found, bind, Except.bind, pure, Except.pure] at made
      cases made
      rfl

theorem declarations_reached {types : List TypeDecl}
    (accepted : declarations scope path outer body = types.map .ok) :
    qualname ∈ types.map (·.qualname) ↔ Reached outer body qualname := by
  fun_induction declarations scope path outer body generalizing types with
  | case1 outer =>
    have nothing : types = [] := by simpa using accepted.symm
    subst nothing
    constructor
    · intro member
      cases member
    · intro reached
      cases reached
  | case2 outer line name bases decorators body rest below behind =>
    obtain ⟨front, others, rfl, opened, followed⟩ := List.append_eq_map_iff.mp accepted
    obtain ⟨type, nested, rfl, made, held⟩ := List.map_eq_cons_iff.mp opened
    have own := ofClass_qualname made.symm
    simp only [List.map_append, List.map_cons, List.mem_append, List.mem_cons, own,
      below held.symm, behind followed.symm]
    constructor
    · rintro ((rfl | inner) | later)
      · exact .here
      · exact .inside inner
      · exact .later later
    · rintro (_ | inner | later)
      · exact .inl (.inl rfl)
      · exact .inl (.inr inner)
      · exact .inr later
  | case3 outer statement rest other behind =>
    rw [behind accepted]
    constructor
    · exact .later
    · rintro (_ | inner | later)
      · exact absurd rfl (other _ _ _ _ _)
      · exact absurd rfl (other _ _ _ _ _)
      · exact later

theorem addAll_whole (added : table.addAll entries = (after, none)) :
    ∃ types : List TypeDecl, entries = types.map .ok ∧ after = types.foldl Table.add table := by
  induction entries generalizing table with
  | nil =>
    cases added
    exact ⟨[], rfl, rfl⟩
  | cons entry rest ih =>
    cases entry with
    | error e => cases added
    | ok type =>
      obtain ⟨types, rfl, rfl⟩ := ih added
      exact ⟨type :: types, rfl, rfl⟩

theorem foldl_keeps {α β γ : Type} {step : α → β → α} (view : α → γ)
    (keeps : ∀ state item, view (step state item) = view state) {items : List β} {start : α} :
    view (items.foldl step start) = view start := by
  induction items generalizing start with
  | nil => rfl
  | cons item rest ih => rw [List.foldl_cons, ih, keeps]

def Table.addImports (table : Table) (home : String) (scope : Scope) : Table :=
  let named := scope.imports.foldl
    (fun table (name, target) => table.addAlias (qualify home name) target) table
  scope.starSources.foldl (fun table source => table.addStar home source) named

theorem addModule_whole (taken : table.addModule path home body = (after, none)) :
    ∃ scope, Scope.ofModule home (path.name = "__init__.py") body = .ok scope ∧
      ∃ types : List TypeDecl, declarations scope path home body = types.map .ok ∧
        after = types.foldl Table.add (table.addImports home scope) := by
  unfold Table.addModule at taken
  cases opened : Scope.ofModule home (path.name = "__init__.py") body with
  | error e => simp [opened] at taken
  | ok scope =>
    simp only [opened] at taken
    cases added : (table.addImports home scope).addAll (declarations scope path home body) with
    | mk grown failure =>
      have parts : (grown, failure.map fun _ => IntakeError.wholeTooLarge) = (after, none) := by
        rw [← taken]
        exact congrArg (fun result : Table × Option Source.EvalError =>
          (result.1, result.2.map fun _ => IntakeError.wholeTooLarge)) added.symm
      cases failure with
      | some e => cases parts
      | none =>
        cases parts
        obtain ⟨types, accepted, rfl⟩ := addAll_whole added
        exact ⟨scope, rfl, types, accepted, rfl⟩

theorem takeFile_whole {tree : Tree} (taken : table.takeFile tree path home = (after, none)) :
    ∃ content, tree.read path = .ok content ∧
      ((statementsOf? content = none ∧ after = table.skip path) ∨
        ∃ body, statementsOf? content = some body ∧
          table.addModule path home body = (after, none)) := by
  unfold Table.takeFile at taken
  cases read : tree.read path with
  | error e => simp [read] at taken
  | ok content =>
    cases parsed : statementsOf? content with
    | none =>
      simp only [read, parsed] at taken
      cases taken
      exact ⟨content, rfl, .inl ⟨parsed, rfl⟩⟩
    | some body =>
      simp only [read, parsed] at taken
      exact ⟨content, rfl, .inr ⟨body, parsed, taken⟩⟩

theorem takeFile_parsed {tree : Tree} (read : tree.read path = .ok content)
    (parsed : statementsOf? content = some body) :
    table.takeFile tree path home = table.addModule path home body := by
  simp only [Table.takeFile, read, parsed]

theorem declares_adds {types : List TypeDecl} :
    (types.foldl Table.add table).declares name = true ↔
      table.declares name = true ∨ name ∈ types.map (·.qualname) := by
  induction types generalizing table with
  | nil => simp
  | cons type rest ih =>
    rw [List.foldl_cons, ih, Table.declares_add, List.map_cons, List.mem_cons, or_assoc]

theorem types_addImports : (table.addImports home scope).types = table.types := by
  unfold Table.addImports
  rw [foldl_keeps Table.types fun _ _ => Table.types_addStar,
    foldl_keeps Table.types fun _ _ => Table.types_addAlias]

theorem declares_addModule (taken : table.addModule path home body = (after, none)) :
    after.declares name = true ↔ table.declares name = true ∨ Reached home body name := by
  obtain ⟨scope, -, types, accepted, rfl⟩ := addModule_whole taken
  rw [declares_adds, declarations_reached accepted, Table.declares_iff, types_addImports,
    ← Table.declares_iff]

theorem starSources_same (same : after.stars = table.stars) :
    after.starSources home = table.starSources home := by
  rw [Table.starSources, Table.starSources, same]

theorem starSources_addStars {sources : List String} :
    (sources.foldl (fun table source => table.addStar home source) table).starSources other =
      if home = other then
        sources.foldl (fun kept source =>
          if source = home ∨ source ∈ kept then kept else kept ++ [source])
          (table.starSources home)
      else table.starSources other := by
  induction sources generalizing table with
  | nil => by_cases own : home = other <;> simp [own]
  | cons source rest ih =>
    rw [List.foldl_cons, ih, Table.starSources_addStar, Table.starSources_addStar]
    by_cases own : home = other <;> simp [own]

-- The sources of a module are recorded under its own name, in order and none twice.
theorem starSources_addModule (taken : table.addModule path home body = (after, none))
    (opened : Scope.ofModule home (path.name = "__init__.py") body = .ok scope) :
    after.starSources other =
      if home = other then
        scope.starSources.foldl (fun kept source =>
          if source = home ∨ source ∈ kept then kept else kept ++ [source])
          (table.starSources home)
      else table.starSources other := by
  obtain ⟨scope', opened', types, -, rfl⟩ := addModule_whole taken
  rw [opened] at opened'
  cases opened'
  have declared : (types.foldl Table.add (table.addImports home scope)).stars =
      (table.addImports home scope).stars :=
    foldl_keeps Table.stars fun _ _ => Table.stars_add
  have aliased : ∀ home', (scope.imports.foldl
      (fun table (name, target) => table.addAlias (qualify home name) target)
      table).starSources home' = table.starSources home' := fun _ =>
    starSources_same (foldl_keeps Table.stars fun _ _ => Table.stars_addAlias)
  rw [starSources_same declared, Table.addImports, starSources_addStars, aliased, aliased]

def Table.takeFiles (table : Table) (tree : Tree) (files : List (Path × String)) : Intake :=
  table.takeEach (fun table (path, home) => table.takeFile tree path home) files

theorem takeFiles_cons {tree : Tree} {files : List (Path × String)}
    (taken : table.takeFiles tree ((path, home) :: files) = (after, none)) :
    ∃ middle, table.takeFile tree path home = (middle, none) ∧
      middle.takeFiles tree files = (after, none) := by
  unfold Table.takeFiles Table.takeEach at taken
  cases first : table.takeFile tree path home with
  | mk middle failure =>
    simp only [first] at taken
    cases failure with
    | some e => cases taken
    | none => exact ⟨middle, rfl, taken⟩

theorem starSources_takeFile {tree : Tree}
    (taken : table.takeFile tree path elsewhere = (after, none)) (apart : elsewhere ≠ home) :
    after.starSources home = table.starSources home := by
  obtain ⟨content, -, ⟨-, rfl⟩ | ⟨body, -, added⟩⟩ := takeFile_whole taken
  · rfl
  · obtain ⟨scope, opened, -⟩ := addModule_whole added
    rw [starSources_addModule added opened, if_neg apart]

end EndpointCatalog.Symbol
