import EndpointCatalog.Proofs.Contribution
import EndpointCatalog.Proofs.PartsOrder
import EndpointCatalog.Proofs.Places

namespace EndpointCatalog.Symbol

open Files (Path Tree Node)

def visitBelow (tree : Tree) (root : Path) (parts : List String) : Path × String :=
  (root.join parts, (homeOf (packageParts tree root ++ parts)).getD "")

def visits (tree : Tree) (root : Path) : List (Path × String) :=
  match tree.node root with
  | .error _ => []
  | .ok (.file _) => [(root, root.stem)]
  | .ok directory => (sourcesBelow directory).map (visitBelow tree root)

theorem visits_directory {tree : Tree} (found : tree.node root = .ok (.directory entries)) :
    visits tree root = (sourcesBelow (.directory entries)).map (visitBelow tree root) := by
  simp only [visits, found]

theorem mem_sourcesBelow {directory : Node} :
    parts ∈ sourcesBelow directory ↔ parts ∈ directory.places ∧ isSource parts = true := by
  rw [sourcesBelow, List.mem_mergeSort, List.mem_filter]

theorem source_nonempty (source : isSource parts = true) : parts ≠ [] := by
  rintro rfl
  cases source

theorem source_found {directory : Node} (proper : directory.Proper) :
    parts ∈ sourcesBelow directory ↔
      (∃ below, directory.find? parts = some below) ∧ isSource parts = true := by
  rw [mem_sourcesBelow]
  refine and_congr_left fun source => ⟨Node.find_of_places proper, ?_⟩
  rintro ⟨below, found⟩
  exact Node.places_of_find found (source_nonempty source)

theorem sourcesBelow_sorted (directory : Node) :
    (sourcesBelow directory).Pairwise fun first second => Text.partsLe first second = true :=
  Text.partsLe_sorted _

theorem sourcesBelow_nodup {directory : Node} (proper : directory.Proper) :
    (sourcesBelow directory).Nodup :=
  (List.mergeSort_perm _ _).nodup_iff.mpr ((Node.places_nodup directory proper).filter _)

namespace Table

variable {table : Table} {tree : Tree}

section

variable {α β : Type} {take : Table → α → Intake}

theorem takeEach_cons {item : α} {rest : List α} :
    table.takeEach take (item :: rest) =
      match take table item with
      | (middle, none) => middle.takeEach take rest
      | ended => ended :=
  rfl

theorem takeEach_single {item : α} : table.takeEach take [item] = take table item := by
  rw [takeEach_cons]
  cases took : take table item with
  | mk middle failure => cases failure <;> rfl

theorem takeEach_append {first second : List α} :
    table.takeEach take (first ++ second) =
      match table.takeEach take first with
      | (middle, none) => middle.takeEach take second
      | ended => ended := by
  induction first generalizing table with
  | nil => rfl
  | cons item rest ih =>
    rw [List.cons_append, takeEach_cons, takeEach_cons]
    cases took : take table item with
    | mk middle failure =>
      cases failure with
      | none => exact ih
      | some e => rfl

theorem takeEach_flatMap {items : List β} {view : β → List α} :
    table.takeEach take (items.flatMap view) =
      table.takeEach (fun table item => table.takeEach take (view item)) items := by
  induction items generalizing table with
  | nil => rfl
  | cons item rest ih =>
    rw [List.flatMap_cons, takeEach_append, takeEach_cons]
    cases took : table.takeEach take (view item) with
    | mk middle failure =>
      cases failure with
      | none => exact ih
      | some e => rfl

theorem takeEach_map {items : List β} {view : β → α} :
    table.takeEach take (items.map view) =
      table.takeEach (fun table item => take table (view item)) items := by
  rw [List.map_eq_flatMap, takeEach_flatMap]
  simp only [takeEach_single]

end

theorem takeFiles_append {files others : List (Path × String)} :
    table.takeFiles tree (files ++ others) =
      match table.takeFiles tree files with
      | (middle, none) => middle.takeFiles tree others
      | ended => ended :=
  takeEach_append

theorem takeRoot_visits : table.takeRoot tree root = table.takeFiles tree (visits tree root) := by
  unfold takeRoot visits takeFiles
  cases found : tree.node root with
  | error cause => rfl
  | ok node =>
    cases node with
    | file content =>
      dsimp only
      rw [takeEach_single]
    | directory entries =>
      dsimp only
      rw [takeEach_map]
      rfl

theorem takeRoots_visits :
    table.takeRoots tree roots = table.takeFiles tree (roots.flatMap (visits tree)) := by
  unfold takeRoots takeFiles
  rw [takeEach_flatMap]
  simp only [takeRoot_visits]
  rfl

theorem takeRoots_contributes (whole : (table.takeRoots tree roots).2 = none) :
    table.takeRoots tree roots =
      ((table.recordAll ((roots.flatMap (visits tree)).flatMap fun file =>
          (contribution tree file).records)).skipAll
        ((roots.flatMap (visits tree)).flatMap fun file => (contribution tree file).skipped), none) := by
  rw [takeRoots_visits] at whole ⊢
  rw [takeFiles_every (takeFiles_whole.mp whole), takeEvery_contributes]

end Table

end EndpointCatalog.Symbol
