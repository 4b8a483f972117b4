import EndpointCatalog.Proofs.Agreement
import EndpointCatalog.Proofs.Contribution
import EndpointCatalog.Proofs.ImportedNames
import EndpointCatalog.Proofs.Records
import Mathlib

namespace EndpointCatalog.Symbol

open Files (Path Tree Node)
open Source (Scope Stmt)
open Text (qualify outerName Undotted)

-- Classes may be declared under any name.
def Record.From (home : String) : Record → Prop
  | .declared _ => True
  | .aliased name _ => outerName name = home
  | .starred own _ => own = home

theorem flatMap_reordered {f : α → List β} (order : List.Perm others items)
    (apart : items.Pairwise fun one two => f one = [] ∨ f two = []) :
    others.flatMap f = items.flatMap f := by
  induction order with
  | nil => rfl
  | cons item order ih =>
    rw [List.flatMap_cons, List.flatMap_cons, ih (List.pairwise_cons.mp apart).2]
  | swap one two rest =>
    have empty := (List.pairwise_cons.mp apart).1 two List.mem_cons_self
    simp only [List.flatMap_cons]
    rcases empty with empty | empty <;> simp [empty]
  | trans first second before behind =>
    rw [before ((second.pairwise_iff Or.symm).mpr apart), behind apart]

variable {tree : Tree} {file : Path × String} {table : Table} {files others : List (Path × String)}

theorem importRecords_from (plain : scope.Plain) (member : entry ∈ importRecords home scope) :
    entry.From home := by
  rcases List.mem_append.mp member with aliased | starred
  · obtain ⟨⟨name, target⟩, bound, rfl⟩ := List.mem_map.mp aliased
    have undotted : Undotted name := plain (name, target) bound
    by_cases named : home = ""
    · subst named
      exact Text.outerName_undotted undotted
    · exact Text.outerName_qualify named undotted
  · obtain ⟨source, -, rfl⟩ := List.mem_map.mp starred
    rfl

theorem statementsOf_plain (parsed : statementsOf? content = some body) :
    Source.PlainImports body := by
  unfold statementsOf? at parsed
  split at parsed
  · cases parsed
  · exact Source.parse_plain parsed

theorem contribution_from (member : entry ∈ (contribution tree file).records) :
    entry.From file.2 := by
  unfold contribution at member
  split at member
  · cases member
  · split at member
    · cases member
    · rename_i content _ body parsed
      unfold ofModule at member
      split at member
      · cases member
      · rename_i scope opened
        rcases List.mem_append.mp member with imported | declared
        · have plain := Scope.ofModule_plain opened (statementsOf_plain parsed)
          exact importRecords_from plain imported
        · obtain ⟨type, -, rfl⟩ := List.mem_map.mp declared
          trivial

-- A file declares what a table has after taking in the file alone.
def DeclaredBy (tree : Tree) (file : Path × String) (name : String) : Prop :=
  (Table.empty.takeFile tree file.1 file.2).1.declares name = true

theorem declaredBy_record (member : Record.declared type ∈ (contribution tree file).records) :
    DeclaredBy tree file type.qualname := by
  rw [DeclaredBy, Table.takeFile_contributes]
  change ((Table.empty.recordAll _).declared? type.qualname).isSome = true
  rw [Table.declared_recordAll, Table.declared?, Table.empty, List.find?_nil, Option.none_or,
    List.head?_filterMap, List.findSome?_isSome_iff]
  exact ⟨_, member, by simp [Record.typeOf?]⟩

theorem types_declared (some : (contribution tree file).records.filterMap (·.typeOf? name) ≠ []) :
    DeclaredBy tree file name := by
  obtain ⟨type, kept⟩ := List.exists_mem_of_ne_nil _ some
  obtain ⟨entry, member, answer⟩ := List.mem_filterMap.mp kept
  obtain ⟨rfl, rfl⟩ := Record.typeOf_some answer
  exact declaredBy_record member

theorem targets_home (some : (contribution tree file).records.filterMap (·.targetOf? name) ≠ []) :
    outerName name = file.2 := by
  obtain ⟨target, kept⟩ := List.exists_mem_of_ne_nil _ some
  obtain ⟨entry, member, answer⟩ := List.mem_filterMap.mp kept
  obtain rfl := Record.targetOf_some answer
  exact contribution_from member

theorem sources_home (some : (contribution tree file).records.filterMap (·.sourceOf? home) ≠ []) :
    home = file.2 := by
  obtain ⟨source, kept⟩ := List.exists_mem_of_ne_nil _ some
  obtain ⟨entry, member, answer⟩ := List.mem_filterMap.mp kept
  obtain rfl := Record.sourceOf_some answer
  exact contribution_from member

structure Unshared (tree : Tree) (one two : Path × String) : Prop where
  homes : one.2 ≠ two.2
  classes : ∀ name, ¬ (DeclaredBy tree one name ∧ DeclaredBy tree two name)

theorem takeEvery_reordered (order : others.Perm files) (apart : files.Pairwise (Unshared tree)) :
    (table.takeEvery tree files).Agrees (table.takeEvery tree others) := by
  rw [Table.takeEvery_contributes, Table.takeEvery_contributes]
  have same {β : Type} (about : Record → Option β)
      (own : ∀ one two, Unshared tree one two →
        (contribution tree one).records.filterMap about = [] ∨
          (contribution tree two).records.filterMap about = []) :
      (others.flatMap fun file => (contribution tree file).records).filterMap about =
        (files.flatMap fun file => (contribution tree file).records).filterMap about := by
    rw [List.filterMap_flatMap, List.filterMap_flatMap]
    exact flatMap_reordered order (apart.imp fun {one two} => own one two)
  refine ⟨fun name => ?_, fun name => ?_, fun home => ?_⟩
  · change (table.recordAll _).declared? name = (table.recordAll _).declared? name
    rw [Table.declared_recordAll, Table.declared_recordAll, same]
    intro one two unshared
    by_contra both
    rw [not_or] at both
    exact unshared.classes name ⟨types_declared both.1, types_declared both.2⟩
  · change (table.recordAll _).alias? name = (table.recordAll _).alias? name
    rw [Table.alias_recordAll, Table.alias_recordAll, same]
    intro one two unshared
    by_contra both
    rw [not_or] at both
    exact unshared.homes ((targets_home both.1).symm.trans (targets_home both.2))
  · change (table.recordAll _).starSources home = (table.recordAll _).starSources home
    rw [Table.stars_recordAll, Table.stars_recordAll, same]
    intro one two unshared
    by_contra both
    rw [not_or] at both
    exact unshared.homes ((sources_home both.1).symm.trans (sources_home both.2))

end EndpointCatalog.Symbol

namespace EndpointCatalog.Discovery

open Files (Path Tree)
open EndpointCatalog.Symbol (Table DeclaredBy contribution)
open EndpointCatalog.Symbol.Table (takeFiles_whole takeFiles_every)

variable {tree : Tree} {table : Table} {files others : List (Path × String)}

-- A file that ends the intake ends it in any order. What is in front of it is then taken in and the
-- rest is not, so that the tables may differ; they agree again if the intake goes on behind it.
theorem order_immaterial (order : others.Perm files) (homes : (files.map (·.2)).Nodup)
    (classes : files.Pairwise fun one two =>
      ∀ name, ¬ (DeclaredBy tree one name ∧ DeclaredBy tree two name)) :
    ((table.takeFiles tree others).2 = none ↔ (table.takeFiles tree files).2 = none) ∧
    ((table.takeFiles tree files).2 = none →
      Alike (table.takeFiles tree files).1 (table.takeFiles tree others).1) ∧
    Alike (table.takeEvery tree files) (table.takeEvery tree others) := by
  have modules : files.Pairwise fun one two => one.2 ≠ two.2 := List.pairwise_map.mp homes
  have apart := modules.imp₂ (fun one two => Symbol.Unshared.mk) classes
  have every : Alike (table.takeEvery tree files) (table.takeEvery tree others) :=
    agrees_alike (Symbol.takeEvery_reordered order apart)
  refine ⟨?_, fun whole => ?_, every⟩
  · rw [takeFiles_whole, takeFiles_whole]
    simp only [order.mem_iff]
  · rw [takeFiles_whole] at whole
    have also : ∀ file ∈ others, (contribution tree file).failure = none :=
      fun file member => whole file (order.mem_iff.mp member)
    rw [takeFiles_every whole, takeFiles_every also]
    exact every

def crossedText : String := "from b import B\nclass A(B): pass\n"

def crossedBase : String := "class B: pass\n"

def crossedTree : Tree :=
  ⟨.directory [("a.py", .file crossedText.toUTF8.toList), ("b.py", .file crossedBase.toUTF8.toList)],
    []⟩

def importing : Path × String := (⟨.relative, ["a.py"]⟩, "a")

def imported : Path × String := (⟨.relative, ["b.py"]⟩, "b")

def importingTable : Table :=
  { Table.empty with
    types := [⟨"a.A", "A", "a", ["b.B"], [], [], none, some importing.1, 2⟩]
    aliases := [("a.B", "b.B")]
    distinct := by decide }

def importedTable : Table :=
  { Table.empty with
    types := [⟨"b.B", "B", "b", [], [], [], none, some imported.1, 1⟩]
    distinct := by decide }

set_option maxRecDepth 4000 in
theorem importing_taken :
    Table.empty.takeFile crossedTree importing.1 importing.2 = (importingTable, none) := by
  unfold crossedTree crossedText crossedBase importing importingTable
  cbv

set_option maxRecDepth 4000 in
theorem imported_taken :
    Table.empty.takeFile crossedTree imported.1 imported.2 = (importedTable, none) := by
  unfold crossedTree crossedText crossedBase imported importedTable
  cbv

theorem crossed_unshared (name : String) :
    ¬ (DeclaredBy crossedTree importing name ∧ DeclaredBy crossedTree imported name) := by
  rw [DeclaredBy, DeclaredBy, importing_taken, imported_taken, Table.declares_iff,
    Table.declares_iff]
  rintro ⟨first, second⟩
  rw [List.mem_singleton.mp first] at second
  exact absurd second (by decide)

theorem crossed_alike :
    [imported, importing].Perm [importing, imported] ∧
    ([importing, imported].map (·.2)).Nodup ∧
    Alike (Table.empty.takeEvery crossedTree [importing, imported])
      (Table.empty.takeEvery crossedTree [imported, importing]) := by
  have order : [imported, importing].Perm [importing, imported] := .swap importing imported []
  have homes : ([importing, imported].map (·.2)).Nodup := by decide
  have classes : [importing, imported].Pairwise fun one two =>
      ∀ name, ¬ (DeclaredBy crossedTree one name ∧ DeclaredBy crossedTree two name) :=
    List.pairwise_pair.mpr crossed_unshared
  exact ⟨order, homes, (order_immaterial order homes classes).2.2⟩

end EndpointCatalog.Discovery
