import EndpointCatalog.Proofs.Growth
import EndpointCatalog.Proofs.Intake

namespace EndpointCatalog.Symbol

open Files (Path Tree)
open Source (Scope Stmt EvalError)
open Text (qualify)

structure Contribution where
  records : List Record := []
  skipped : List Path := []
  failure : Option IntakeError := none

def importRecords (home : String) (scope : Scope) : List Record :=
  scope.imports.map (fun (name, target) => .aliased (qualify home name) target) ++
    scope.starSources.map (.starred home)

def accepted : List (Except EvalError TypeDecl) → List TypeDecl
  | .ok type :: rest => type :: accepted rest
  | _ => []

def refusal? : List (Except EvalError TypeDecl) → Option EvalError
  | [] => none
  | .ok _ :: rest => refusal? rest
  | .error e :: _ => some e

def ofModule (path : Path) (home : String) (body : List Stmt) : Contribution :=
  match Scope.ofModule home (path.name = "__init__.py") body with
  | .error _ => { failure := some .wholeTooLarge }
  | .ok scope =>
    let classes := declarations scope path home body
    { records := importRecords home scope ++ (accepted classes).map .declared
      failure := (refusal? classes).map fun _ => .wholeTooLarge }

def contribution (tree : Tree) (file : Path × String) : Contribution :=
  match tree.read file.1 with
  | .error e => { failure := some (.file e) }
  | .ok content =>
    match statementsOf? content with
    | none => { skipped := [file.1] }
    | some body => ofModule file.1 file.2 body

namespace Table

def skipAll (table : Table) (paths : List Path) : Table :=
  { table with skipped := table.skipped ++ paths }

-- Files behind one that ends early are taken in as well.
def takeEvery (table : Table) (tree : Tree) (files : List (Path × String)) : Table :=
  files.foldl (fun table file => (table.takeFile tree file.1 file.2).1) table

variable {table : Table}

theorem recordAll_append (first second : List Record) :
    table.recordAll (first ++ second) = (table.recordAll first).recordAll second :=
  List.foldl_append

theorem skipAll_nil : table.skipAll [] = table := by
  unfold skipAll
  rw [List.append_nil]

theorem skipAll_append : (table.skipAll first).skipAll second = table.skipAll (first ++ second) := by
  simp [skipAll]

theorem record_skipAll {entry : Record} :
    (table.skipAll paths).record entry = (table.record entry).skipAll paths := by
  cases entry with
  | declared type =>
    by_cases taken : table.declares type.qualname = true
    · have same : (table.skipAll paths).declares type.qualname = true := taken
      rw [Table.record, Table.record, add, add, dif_pos same, dif_pos taken]
    · have same : ¬ (table.skipAll paths).declares type.qualname = true := taken
      rw [Table.record, Table.record, add, add, dif_neg same, dif_neg taken]
      rfl
  | aliased name target =>
    by_cases idle : name = target ∨ (table.alias? name).isSome = true
    · have same : name = target ∨ ((table.skipAll paths).alias? name).isSome = true := idle
      rw [Table.record, Table.record, addAlias, addAlias, if_pos same, if_pos idle]
    · have same : ¬ (name = target ∨ ((table.skipAll paths).alias? name).isSome = true) := idle
      rw [Table.record, Table.record, addAlias, addAlias, if_neg same, if_neg idle]
      rfl
  | starred home source => rfl

theorem recordAll_skipAll {records : List Record} :
    (table.skipAll paths).recordAll records = (table.recordAll records).skipAll paths := by
  unfold recordAll
  induction records generalizing table with
  | nil => rfl
  | cons record rest ih => rw [List.foldl_cons, List.foldl_cons, record_skipAll, ih]

theorem addAll_accepted :
    table.addAll entries = (table.recordAll ((accepted entries).map .declared), refusal? entries) := by
  induction entries generalizing table with
  | nil => rfl
  | cons entry rest ih =>
    cases entry with
    | error e => rfl
    | ok type => exact ih

theorem addImports_records :
    table.addImports home scope = table.recordAll (importRecords home scope) := by
  unfold addImports importRecords recordAll
  rw [List.foldl_append, List.foldl_map, List.foldl_map]
  rfl

theorem addModule_contributes {path : Path} :
    table.addModule path home body =
      (table.recordAll (ofModule path home body).records, (ofModule path home body).failure) := by
  unfold addModule ofModule
  cases opened : Scope.ofModule home (path.name = "__init__.py") body with
  | error e => rfl
  | ok scope =>
    dsimp only
    rw [recordAll_append, ← addImports_records]
    have added : (table.addImports home scope).addAll (declarations scope path home body) = _ :=
      addAll_accepted
    unfold addImports at added
    rw [added]
    rfl

theorem takeFile_contributes {tree : Tree} {path : Path} {home : String} :
    table.takeFile tree path home =
      ((table.recordAll (contribution tree (path, home)).records).skipAll
          (contribution tree (path, home)).skipped,
        (contribution tree (path, home)).failure) := by
  unfold takeFile contribution
  cases read : tree.read path with
  | error e =>
    dsimp only
    rw [skipAll_nil]
    rfl
  | ok content =>
    dsimp only
    cases parsed : statementsOf? content with
    | none => rfl
    | some body =>
      have silent : (ofModule path home body).skipped = [] := by
        unfold ofModule
        split <;> rfl
      dsimp only
      rw [addModule_contributes, silent, skipAll_nil]

theorem takeEvery_contributes {tree : Tree} {files : List (Path × String)} :
    table.takeEvery tree files =
      (table.recordAll (files.flatMap fun file => (contribution tree file).records)).skipAll
        (files.flatMap fun file => (contribution tree file).skipped) := by
  unfold takeEvery
  induction files generalizing table with
  | nil => rw [List.foldl_nil]; exact skipAll_nil.symm
  | cons file rest ih =>
    rw [List.foldl_cons, ih, takeFile_contributes, recordAll_skipAll, skipAll_append,
      List.flatMap_cons, List.flatMap_cons, recordAll_append]

theorem takeFiles_failure {tree : Tree} {files : List (Path × String)} :
    (table.takeFiles tree files).2 = files.findSome? fun file => (contribution tree file).failure := by
  unfold takeFiles
  induction files generalizing table with
  | nil => rfl
  | cons file rest ih =>
    obtain ⟨path, home⟩ := file
    unfold takeEach
    dsimp only
    rw [takeFile_contributes, List.findSome?_cons]
    cases failed : (contribution tree (path, home)).failure with
    | none => exact ih
    | some e => rfl

theorem takeFiles_whole {tree : Tree} {files : List (Path × String)} :
    (table.takeFiles tree files).2 = none ↔ ∀ file ∈ files, (contribution tree file).failure = none := by
  rw [takeFiles_failure, List.findSome?_eq_none_iff]

theorem takeFiles_every {tree : Tree} {files : List (Path × String)}
    (whole : ∀ file ∈ files, (contribution tree file).failure = none) :
    table.takeFiles tree files = (table.takeEvery tree files, none) := by
  unfold takeFiles takeEvery
  induction files generalizing table with
  | nil => rfl
  | cons file rest ih =>
    obtain ⟨path, home⟩ := file
    obtain ⟨first, others⟩ := List.forall_mem_cons.mp whole
    unfold takeEach
    dsimp only
    rw [List.foldl_cons, takeFile_contributes, first]
    exact ih others

end Table

end EndpointCatalog.Symbol
