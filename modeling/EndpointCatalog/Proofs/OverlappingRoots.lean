import EndpointCatalog.Proofs.Records
import EndpointCatalog.Proofs.Visits
import Mathlib

namespace EndpointCatalog.Symbol

open Files (Path Tree Node)

structure Subpackage (tree : Tree) (root : Path) (name : String) : Prop where
  entry : name ≠ ".."
  directory : tree.isDirectory (root.join [name]) = true
  package : tree.has (root.join [name, "__init__.py"]) = true
  kept : name ∉ ignoredDirectories

variable {tree : Tree} {root : Path} {name : String}

theorem subpackage_entry (package : Subpackage tree root name) :
    ∃ entries below, tree.node root = .ok (.directory entries) ∧
      tree.node (root.join [name]) = .ok (.directory below) ∧
      (name, .directory below) ∈ entries ∧ tree.directoryName (root.join [name]) = name := by
  have directory := package.directory
  unfold Tree.isDirectory at directory
  split at directory
  · rename_i below found
    obtain ⟨place, located, reached⟩ := Tree.node_located.mp found
    rw [Tree.locate_join] at located
    cases start : tree.locate root with
    | error cause => simp [start, bind, Except.bind] at located
    | ok outer =>
      rw [start] at located
      change [name].foldlM tree.step outer = .ok place at located
      have stepped : tree.step outer name = .ok place := by simpa using located
      unfold Tree.step at stepped
      split at stepped
      · cases stepped
      · cases stepped
      · rename_i entries top
        rw [if_neg package.entry] at stepped
        split at stepped
        · rename_i inner looked
          cases stepped
          rw [Node.find_append, top, Option.bind_some, Node.find?, looked] at reached
          cases reached
          refine ⟨entries, below, Tree.node_located.mpr ⟨outer, start, top⟩, found,
            Node.lookup_mem looked, ?_⟩
          have arrived : tree.locate (root.join [name]) = .ok (outer ++ [name]) := by
            rw [Tree.locate_join, start]
            exact located
          rw [Tree.directoryName, arrived]
          simp
        · cases stepped
  · cases directory

theorem source_below (source : isSource parts = true) (kept : name ∉ ignoredDirectories) :
    isSource (name :: parts) = true := by
  cases parts with
  | nil => exact absurd rfl (source_nonempty source)
  | cons first rest => simpa [isSource, kept] using source

theorem visits_subpackage (flat : tree.has (root.join ["__init__.py"]) = false)
    (package : Subpackage tree root name) (visit : file ∈ visits tree (root.join [name])) :
    file ∈ visits tree root := by
  obtain ⟨entries, below, top, found, entry, called⟩ := subpackage_entry package
  rw [visits_directory found] at visit
  rw [visits_directory top]
  obtain ⟨parts, listed, rfl⟩ := List.mem_map.mp visit
  obtain ⟨place, source⟩ := mem_sourcesBelow.mp listed
  refine List.mem_map.mpr ⟨name :: parts, mem_sourcesBelow.mpr ⟨?_, ?_⟩, ?_⟩
  · exact Node.mem_entryPlaces.mpr ⟨_, entry, .inr place⟩
  · exact source_below source package.kept
  · have marked : tree.has ((root.join [name]).join ["__init__.py"]) = true := by
      rw [Tree.join_join]
      exact package.package
    have outer : packageParts tree root = [] := by simp [packageParts, flat]
    have inner : packageParts tree (root.join [name]) = [name] := by
      simp [packageParts, marked, called]
    rw [visitBelow, visitBelow, outer, inner, Tree.join_join]
    rfl

namespace Table

variable {table : Table} {files others : List (Path × String)}

theorem holds_skipAll (held : table.Holds entry) : (table.skipAll paths).Holds entry := by
  cases entry <;> exact held

-- Files that were taken in before add nothing but skipped paths that are listed already.
theorem takeFiles_again (among : ∀ file ∈ others, file ∈ files) :
    ∃ again, table.takeFiles tree (files ++ others) =
        ((table.takeFiles tree files).1.skipAll again, (table.takeFiles tree files).2) ∧
      ∀ path ∈ again, path ∈ (table.takeFiles tree files).1.skipped := by
  rw [takeFiles_append]
  cases ended : (table.takeFiles tree files).2 with
  | some e =>
    refine ⟨[], ?_, by simp⟩
    have whole : table.takeFiles tree files = ((table.takeFiles tree files).1, some e) :=
      Prod.ext rfl ended
    rw [whole, skipAll_nil]
  | none =>
    have each := takeFiles_whole.mp ended
    have also : ∀ file ∈ others, (contribution tree file).failure = none :=
      fun file member => each file (among file member)
    rw [takeFiles_every each]
    dsimp only
    rw [takeFiles_every also, takeEvery_contributes, takeEvery_contributes, recordAll_held]
    · refine ⟨_, rfl, ?_⟩
      intro path again
      obtain ⟨file, member, listed⟩ := List.mem_flatMap.mp again
      exact List.mem_append_right _ (List.mem_flatMap.mpr ⟨file, among file member, listed⟩)
    · intro entry again
      obtain ⟨file, member, own⟩ := List.mem_flatMap.mp again
      have recorded : entry ∈ files.flatMap fun file => (contribution tree file).records :=
        List.mem_flatMap.mpr ⟨file, among file member, own⟩
      exact holds_skipAll (recordAll_holds recorded)

end Table

-- An intake that ends early ends at the same file, and the roots behind are not reached.
theorem overlap_absorbed {table : Table} {others : List Path}
    (flat : tree.has (root.join ["__init__.py"]) = false)
    (overlap : ∀ other ∈ others, other = root ∨
      ∃ name, other = root.join [name] ∧ Subpackage tree root name) :
    ∃ again, table.takeRoots tree (root :: others) =
        ((table.takeRoot tree root).1.skipAll again, (table.takeRoot tree root).2) ∧
      ∀ path ∈ again, path ∈ (table.takeRoot tree root).1.skipped := by
  have among : ∀ file ∈ others.flatMap (visits tree), file ∈ visits tree root := by
    intro file visit
    obtain ⟨other, listed, inside⟩ := List.mem_flatMap.mp visit
    rcases overlap other listed with rfl | ⟨name, rfl, package⟩
    · exact inside
    · exact visits_subpackage flat package inside
  rw [Table.takeRoots_visits, List.flatMap_cons, Table.takeRoot_visits]
  exact Table.takeFiles_again among

def nestedTree : Tree :=
  ⟨.directory [("p", .directory [("__init__.py", .file "class A: pass\n".toUTF8.toList),
    ("m.py", .file [0xff])])], []⟩

def nestedRoot : Path := ⟨.relative, []⟩

theorem nested_package : Subpackage nestedTree nestedRoot "p" where
  entry := by decide
  directory := rfl
  package := rfl
  kept := by decide

theorem nested_absorbed :
    nestedTree.has (nestedRoot.join ["__init__.py"]) = false ∧
    Subpackage nestedTree nestedRoot "p" ∧
    ∃ again, Table.empty.takeRoots nestedTree [nestedRoot, nestedRoot.join ["p"], nestedRoot] =
        ((Table.empty.takeRoot nestedTree nestedRoot).1.skipAll again,
          (Table.empty.takeRoot nestedTree nestedRoot).2) ∧
      ∀ path ∈ again, path ∈ (Table.empty.takeRoot nestedTree nestedRoot).1.skipped := by
  have flat : nestedTree.has (nestedRoot.join ["__init__.py"]) = false := rfl
  refine ⟨flat, nested_package, overlap_absorbed flat ?_⟩
  intro other listed
  rcases List.mem_pair.mp listed with rfl | rfl
  · exact .inr ⟨"p", rfl, nested_package⟩
  · exact .inl rfl

end EndpointCatalog.Symbol
