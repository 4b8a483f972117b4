import EndpointCatalog.Proofs.DottedNames
import EndpointCatalog.Proofs.Intake
import Mathlib

namespace EndpointCatalog.Source

open EndpointCatalog.Symbol (foldl_keeps)

def NamesClass (name : String) : Stmt → Prop
  | .classDef _ own _ _ _ => own = name
  | _ => False

namespace Scope

variable {scope next : Scope}

theorem remember_classes (remembered : scope.remember target value = .ok next) :
    next.classes = scope.classes := by
  obtain ⟨constants, rfl⟩ := remember_constants remembered
  rfl

theorem classes_addImport : (scope.addImport name target).classes = scope.classes := rfl

theorem step_classes (stepped : scope.step statement = .ok next) :
    name ∈ next.classes ↔ name ∈ scope.classes ∨ NamesClass name statement := by
  unfold step at stepped
  split at stepped
  · cases stepped
    rw [foldl_keeps Scope.classes fun _ imported => by cases imported.localName <;> rfl]
    simp [NamesClass]
  · cases stepped
    rw [foldl_keeps Scope.classes fun _ _ => classes_addImport]
    simp [NamesClass]
  · cases stepped
    simp [NamesClass]
  · rename_i own _ _ _
    cases stepped
    by_cases known : own ∈ scope.classes
    · have old : own = name → name ∈ scope.classes := by
        rintro rfl
        exact known
      simpa [known, NamesClass] using old
    · simp [known, NamesClass, eq_comm]
  · rw [remember_classes stepped]
    simp [NamesClass]
  · rw [remember_classes stepped]
    simp [NamesClass]
  · rename_i other _ _
    cases stepped
    have plain : ¬ NamesClass name statement := by
      unfold NamesClass
      split
      · exact absurd rfl (other _ _ _ _ _)
      · exact id
    simp [plain]

theorem steps_classes {statements : List Stmt} (stepped : statements.foldlM step scope = .ok next) :
    name ∈ next.classes ↔
      name ∈ scope.classes ∨ ∃ statement ∈ statements, NamesClass name statement := by
  induction statements generalizing scope with
  | nil =>
    cases stepped
    simp
  | cons statement rest ih =>
    rw [List.foldlM_cons] at stepped
    obtain ⟨middle, first, later⟩ := bind_ok stepped
    rw [ih later, step_classes first]
    simp [or_assoc]

theorem ofModule_classes (opened : Scope.ofModule outer isPackage body = .ok scope) :
    name ∈ scope.classes ↔ ∃ statement ∈ topLevel body, NamesClass name statement := by
  rw [steps_classes opened]
  simp [empty]

end Scope

end EndpointCatalog.Source

namespace EndpointCatalog.Symbol

open Files (Path Tree Node)
open Source (Scope Stmt NamesClass topLevel)
open Text (qualify Undotted)

variable {table after : Table}

theorem body_reached {body : List Stmt} (member : statement ∈ body)
    (named : NamesClass name statement) : Reached home body (qualify home name) := by
  induction body with
  | nil => cases member
  | cons first rest ih =>
    rcases List.mem_cons.mp member with rfl | later
    · cases statement with
      | classDef line own bases decorators body =>
        cases named
        exact .here
      | _ => cases named
    · exact .later (ih later)

theorem qualify_named (named : outer ≠ "") : qualify outer name ≠ "" := by
  rw [qualify, if_neg named]
  intro empty
  simpa using congrArg String.length empty

theorem reached_below (reached : Reached outer body qualname) (named : outer ≠ "") :
    ∃ path, qualname = qualify outer path := by
  induction reached with
  | here => exact ⟨_, rfl⟩
  | @inside outer name body qualname line bases decorators rest below ih =>
    obtain ⟨path, rfl⟩ := ih (qualify_named named)
    refine ⟨name ++ "." ++ path, ?_⟩
    simp [qualify, named, String.append_assoc]
  | later behind ih => exact ih named

-- No class inside another one is declared under the name of a class of the module.
theorem reached_direct (reached : Reached home body (qualify home name)) (named : home ≠ "")
    (clean : Undotted name) : ∃ statement ∈ body, NamesClass name statement := by
  induction body with
  | nil => cases reached
  | cons first rest ih =>
    generalize target : qualify home name = qualname at reached
    cases reached with
    | @here _ _ own =>
      have parts := congrArg Text.components target
      rw [Text.components_qualify named, Text.components_qualify named,
        Text.components_undotted clean, List.append_cancel_left_eq] at parts
      have same : own = name := by
        rw [← Text.joinDots_components own, ← parts]
        rfl
      exact ⟨_, List.mem_cons_self, same⟩
    | @inside _ own inner _ _ _ _ _ below =>
      obtain ⟨path, rfl⟩ := reached_below below (qualify_named named)
      have parts := congrArg Text.components target
      rw [Text.components_qualify named, Text.components_qualify (qualify_named named),
        Text.components_qualify named, Text.components_undotted clean, List.append_assoc,
        List.append_cancel_left_eq] at parts
      have front := List.length_pos_iff.mpr (Text.components_ne_nil own)
      have back := List.length_pos_iff.mpr (Text.components_ne_nil path)
      have size := congrArg List.length parts
      rw [List.length_append, List.length_singleton] at size
      omega
    | later behind =>
      obtain ⟨statement, member, found⟩ := ih (target ▸ behind)
      exact ⟨statement, List.mem_cons_of_mem _ member, found⟩

-- Only classes whose statements stand in the body itself get into the table.
theorem classes_declared {tree : Tree} {path : Path} (read : tree.read path = .ok content)
    (parsed : statementsOf? content = some body)
    (taken : table.takeFile tree path home = (after, none)) :
    ∃ scope, Scope.ofModule home (path.name = "__init__.py") body = .ok scope ∧
      (∀ name, name ∈ scope.classes ↔ ∃ statement ∈ topLevel body, NamesClass name statement) ∧
      (∀ name, after.declares (qualify home name) = true ↔
        table.declares (qualify home name) = true ∨ Reached home body (qualify home name)) ∧
      (home ≠ "" → ∀ name, Undotted name →
        (Reached home body (qualify home name) ↔ ∃ statement ∈ body, NamesClass name statement)) := by
  rw [takeFile_parsed read parsed] at taken
  obtain ⟨scope, opened, -⟩ := addModule_whole taken
  refine ⟨scope, opened, fun _ => Scope.ofModule_classes opened, fun _ => declares_addModule taken, ?_⟩
  intro named name clean
  constructor
  · intro reached
    exact reached_direct reached named clean
  · rintro ⟨statement, member, names⟩
    exact body_reached member names

def guardedText : String := "if x:\n class A: pass\nclass B: pass\n"

def guardedBody : List Stmt :=
  [.conditional (.name "x") [.classDef 2 "A" [] [] [.other]] [], .classDef 3 "B" [] [] [.other]]

def guardedTree : Tree := ⟨.directory [("m.py", .file guardedText.toUTF8.toList)], []⟩

def guardedPath : Path := ⟨.relative, ["m.py"]⟩

theorem guarded_read : guardedTree.read guardedPath = .ok guardedText.toUTF8.toList := by
  unfold guardedTree
  cbv

set_option maxRecDepth 4000 in
theorem guarded_parsed : statementsOf? guardedText.toUTF8.toList = some guardedBody := by
  unfold guardedText guardedBody
  cbv

def guardedScope : Scope := ⟨"m", "", [], ["A", "B"], [], []⟩

def guardedTable : Table :=
  { Table.empty with
    types := [⟨"m.B", "B", "m", [], [], [], none, some guardedPath, 3⟩]
    distinct := by decide }

theorem guarded_taken : Table.empty.takeFile guardedTree guardedPath "m" = (guardedTable, none) := by
  rw [takeFile_parsed guarded_read guarded_parsed]
  cbv

theorem guarded_lost :
    guardedTree.read guardedPath = .ok guardedText.toUTF8.toList ∧
    statementsOf? guardedText.toUTF8.toList = some guardedBody ∧
    Scope.ofModule "m" (guardedPath.name = "__init__.py") guardedBody = .ok guardedScope ∧
    "A" ∈ guardedScope.classes ∧
    Table.empty.takeFile guardedTree guardedPath "m" = (guardedTable, none) ∧
    guardedTable.declares (qualify "m" "A") = false :=
  ⟨guarded_read, guarded_parsed, by cbv, by decide, guarded_taken, by decide⟩

theorem guarded_kept :
    guardedTable.declares (qualify "m" "B") = true ∧ Reached "m" guardedBody (qualify "m" "B") := by
  obtain ⟨scope, -, -, declared, direct⟩ :=
    classes_declared guarded_read guarded_parsed guarded_taken
  have reached : Reached "m" guardedBody (qualify "m" "B") :=
    (direct (by decide) "B" (by decide)).mpr ⟨_, List.mem_cons_of_mem _ List.mem_cons_self, rfl⟩
  exact ⟨(declared "B").mpr (.inr reached), reached⟩

end EndpointCatalog.Symbol
