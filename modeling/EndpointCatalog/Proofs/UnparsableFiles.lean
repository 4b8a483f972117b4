import EndpointCatalog.Proofs.Agreement
import EndpointCatalog.Proofs.PaddedTrees
import Mathlib

namespace EndpointCatalog.Symbol

open Files (Path Tree Node)

theorem skipped_own (tree : Tree) (file : Path × String) :
    (contribution tree file).skipped = [] ∨ (contribution tree file).skipped = [file.1] := by
  unfold contribution
  split
  · exact .inl rfl
  · split
    · exact .inr rfl
    · unfold ofModule
      split
      · exact .inl rfl
      · exact .inl rfl

theorem flatMap_kept {keep : α → Bool} {view : α → List β} {items : List α}
    (silent : ∀ item ∈ items, keep item = false → view item = []) :
    items.flatMap view = (items.filter keep).flatMap view := by
  induction items with
  | nil => rfl
  | cons item rest ih =>
    obtain ⟨first, others⟩ := List.forall_mem_cons.mp silent
    rw [List.flatMap_cons, ih others, List.filter_cons]
    cases kept : keep item with
    | true => rw [if_pos rfl, List.flatMap_cons]
    | false => rw [first kept, if_neg Bool.false_ne_true, List.nil_append]

namespace Padded

variable {plain full : Tree} {extra : List (List String)} {roots : List Path}
  (padded : Padded plain full extra)
  (directories : ∀ root ∈ roots, plain.isDirectory root = true)
include padded directories

theorem contribution_plain (visit : file ∈ roots.flatMap (visits plain)) :
    contribution full file = contribution plain file := by
  obtain ⟨root, listed, inside⟩ := List.mem_flatMap.mp visit
  obtain ⟨place, entries, others, shared⟩ :=
    SharedRoot.of_directory padded (directories root listed)
  exact shared.contribution_same padded inside

variable (markers : ∀ root ∈ roots, leadsInto full extra (root.join ["__init__.py"]) = false)
include markers

theorem visits_plain :
    (roots.flatMap (visits full)).filter (fun file => !leadsInto full extra file.1) =
      roots.flatMap (visits plain) := by
  rw [List.filter_flatMap]
  apply List.flatMap_congr
  intro root listed
  obtain ⟨place, entries, others, shared⟩ :=
    SharedRoot.of_directory padded (directories root listed)
  exact shared.visits_kept padded (markers root listed)

-- What the visits of extra files have nothing of, the other visits have alike in both trees.
theorem collected_same (view : Contribution → List β)
    (silent : ∀ path, view { skipped := [path] } = []) :
    ((roots.flatMap (visits full)).flatMap fun file => view (contribution full file)) =
      (roots.flatMap (visits plain)).flatMap fun file => view (contribution plain file) := by
  rw [← padded.visits_plain directories markers, flatMap_kept, padded.visits_plain directories markers]
  · apply List.flatMap_congr
    intro file visit
    rw [padded.contribution_plain directories visit]
  · intro file _ leads
    have into : leadsInto full extra file.1 = true := by simpa using leads
    rw [contribution_extra padded into, silent]

theorem records_same :
    ((roots.flatMap (visits full)).flatMap fun file => (contribution full file).records) =
      (roots.flatMap (visits plain)).flatMap fun file => (contribution plain file).records :=
  padded.collected_same directories markers (·.records) fun _ => rfl

theorem failure_same (table : Table) :
    (table.takeRoots full roots).2 = (table.takeRoots plain roots).2 := by
  rw [Table.takeRoots_visits, Table.takeRoots_visits, Table.takeFiles_failure,
    Table.takeFiles_failure, ← List.head?_filterMap, ← List.head?_filterMap,
    List.filterMap_eq_flatMap_toList, List.filterMap_eq_flatMap_toList]
  exact congrArg List.head? (padded.collected_same directories markers (·.failure.toList) fun _ => rfl)

theorem skipped_plain :
    ((roots.flatMap (visits full)).flatMap fun file => (contribution full file).skipped).filter
        (fun path => !leadsInto full extra path) =
      (roots.flatMap (visits plain)).flatMap fun file => (contribution plain file).skipped := by
  rw [List.filter_flatMap, ← padded.visits_plain directories markers, flatMap_kept]
  · apply List.flatMap_congr
    intro file visit
    have kept := (List.mem_filter.mp visit).2
    rw [padded.visits_plain directories markers] at visit
    rw [← padded.contribution_plain directories visit]
    rcases skipped_own full file with none | own
    · rw [none]
      rfl
    · rw [own, List.filter_singleton, kept]
      rfl
  · intro file _ leads
    rcases skipped_own full file with none | own
    · rw [none]
      rfl
    · rw [own, List.filter_singleton, leads]
      rfl

end Padded

theorem skipped_extra (padded : Padded plain full extra) (files : List (Path × String)) :
    (files.flatMap fun file => (contribution full file).skipped).filter (leadsInto full extra) =
      (files.map (·.1)).filter (leadsInto full extra) := by
  rw [List.map_eq_flatMap, List.filter_flatMap, List.filter_flatMap]
  apply List.flatMap_congr
  intro file _
  cases leads : leadsInto full extra file.1 with
  | true => rw [contribution_extra padded leads]
  | false =>
    have passed : [file.1].filter (leadsInto full extra) = [] := by
      rw [List.filter_singleton, leads]
      rfl
    rcases skipped_own full file with none | own
    · rw [none, passed]
      rfl
    · rw [own]

theorem skipped_recordAll {table : Table} {records : List Record} :
    (table.recordAll records).skipped = table.skipped := by
  refine foldl_keeps Table.skipped fun table entry => ?_
  cases entry with
  | declared type =>
    rw [Table.record, Table.add]
    split <;> rfl
  | aliased name target =>
    rw [Table.record, Table.addAlias]
    split <;> rfl
  | starred home source => rfl

theorem skipped_fresh (records : List Record) (paths : List Path) :
    ((Table.empty.recordAll records).skipAll paths).skipped = paths := by
  change (Table.empty.recordAll records).skipped ++ paths = paths
  rw [skipped_recordAll]
  rfl

end EndpointCatalog.Symbol

namespace EndpointCatalog.Discovery

open Files (Path Tree)
open EndpointCatalog.Symbol (Table Padded leadsInto visits)

theorem scanTable_events (member : event ∈ (scanTable table guide).2) (path : Path) :
    event ≠ .skippedFile path := by
  rintro rfl
  unfold scanTable at member
  split at member
  · obtain ⟨scanned, listed, inside⟩ := List.mem_flatMap.mp member
    obtain ⟨type, -, rfl⟩ := List.mem_map.mp listed
    unfold scanController at inside
    split at inside
    · simp at inside
    · rcases List.mem_cons.mp inside with first | later
      · cases first
      · obtain ⟨described, listed, inside⟩ := List.mem_flatMap.mp later
        obtain ⟨method, -, rfl⟩ := List.mem_map.mp listed
        simp [scanMethod] at inside
  · simp at member

theorem scanTable_skipAll (table : Table) (paths : List Path) :
    scanTable (table.skipAll paths) = scanTable table :=
  scanTable_same ⟨fun _ => rfl, fun _ => rfl, fun _ => rfl⟩ rfl

theorem scanRoots_error {tree : Tree} :
    scanRoots tree roots guide = .error e ↔ (Table.empty.takeRoots tree roots).2 = some e := by
  unfold scanRoots
  split
  · rename_i taken
    rw [taken]
    simp
  · rename_i taken
    rw [taken]
    simp

theorem scanRoots_whole {tree : Tree} (taken : Table.empty.takeRoots tree roots = (table, none)) :
    scanRoots tree roots guide =
      .ok ⟨(scanTable table guide).1, table.skipped.map .skippedFile ++ (scanTable table guide).2⟩ := by
  unfold scanRoots
  rw [taken]

-- Directories named as sources need not be excluded: an intake that ends at one ends there in both
-- trees.
theorem padded_scan (padded : Padded plain full extra)
    (directories : ∀ root ∈ roots, plain.isDirectory root = true)
    (markers : ∀ root ∈ roots, leadsInto full extra (root.join ["__init__.py"]) = false)
    (guide : Guide) :
    (∀ e, scanRoots full roots guide = .error e ↔ scanRoots plain roots guide = .error e) ∧
    ∀ table, Table.empty.takeRoots plain roots = (table, none) →
      ∃ grown application events, Table.empty.takeRoots full roots = (grown, none) ∧
        grown.types = table.types ∧ grown.aliases = table.aliases ∧ grown.stars = table.stars ∧
        grown.skipped.filter (fun path => !leadsInto full extra path) = table.skipped ∧
        grown.skipped.filter (leadsInto full extra) =
          ((roots.flatMap (visits full)).map (·.1)).filter (leadsInto full extra) ∧
        scanRoots plain roots guide =
          .ok ⟨application, table.skipped.map .skippedFile ++ events⟩ ∧
        scanRoots full roots guide =
          .ok ⟨application, grown.skipped.map .skippedFile ++ events⟩ ∧
        ∀ event ∈ events, ∀ path, event ≠ .skippedFile path := by
  have failures := padded.failure_same directories markers Table.empty
  refine ⟨fun e => by rw [scanRoots_error, scanRoots_error, failures], ?_⟩
  intro table taken
  have ends : (Table.empty.takeRoots plain roots).2 = none := by rw [taken]
  have alsoEnds : (Table.empty.takeRoots full roots).2 = none := by rw [failures, ends]
  have made := Table.takeRoots_contributes ends
  rw [taken] at made
  obtain ⟨rfl, -⟩ := Prod.mk.inj made
  have grown := Table.takeRoots_contributes alsoEnds
  rw [padded.records_same directories markers] at grown
  refine ⟨_, _, _, grown, rfl, rfl, rfl, ?_, ?_, scanRoots_whole taken, ?_, fun _ => scanTable_events⟩
  · rw [Symbol.skipped_fresh, Symbol.skipped_fresh]
    exact padded.skipped_plain directories markers
  · rw [Symbol.skipped_fresh]
    exact Symbol.skipped_extra padded _
  · rw [scanRoots_whole grown, scanTable_skipAll, scanTable_skipAll]

def bareTree : Tree := ⟨.directory [("a.py", .file "class A: pass\n".toUTF8.toList)], []⟩

def litteredTree : Tree :=
  ⟨.directory [("a.py", .file "class A: pass\n".toUTF8.toList), ("b.py", .file [0xff])], []⟩

def bareRoot : Path := ⟨.relative, []⟩

def bareTable : Table :=
  { Table.empty with
    types := [⟨"a.A", "A", "a", [], [], [], none, some ⟨.relative, ["a.py"]⟩, 1⟩]
    distinct := by decide }

set_option maxRecDepth 4000 in
theorem bare_taken : Table.empty.takeRoots bareTree [bareRoot] = (bareTable, none) := by
  unfold bareTree bareRoot bareTable
  cbv

theorem littered_visits :
    ([bareRoot].flatMap (visits litteredTree)).map (·.1) =
      [⟨.relative, ["a.py"]⟩, ⟨.relative, ["b.py"]⟩] := by
  unfold litteredTree bareRoot
  cbv

theorem littered_padded : Padded bareTree litteredTree [["b.py"]] where
  here := rfl
  plainProper := by
    refine Files.Node.proper_directory (by decide) (by decide) ?_
    intro entry listed
    rw [List.mem_singleton.mp listed]
    exact Files.Node.proper_file
  fullProper := by
    refine Files.Node.proper_directory (by decide) (by decide) ?_
    intro entry listed
    rcases List.mem_pair.mp listed with rfl | rfl
    · exact Files.Node.proper_file
    · exact Files.Node.proper_file
  files := by
    rintro (_ | ⟨name, rest⟩) content
    · simp [bareTree, litteredTree, Files.Node.find?]
    · unfold bareTree litteredTree Files.Node.find? Files.Node.lookup Files.Node.lookup
      by_cases first : "a.py" = name
      · subst first
        simp
      · by_cases second : "b.py" = name
        · subst second
          cases rest <;> simp [first, Files.Node.find?]
        · simp [first, second, Files.Node.lookup]
  directories := by
    rintro (_ | ⟨name, rest⟩) entries found
    · exact ⟨_, rfl⟩
    · unfold bareTree Files.Node.find? Files.Node.lookup Files.Node.lookup at found
      by_cases first : "a.py" = name
      · cases rest <;> simp [first, Files.Node.find?] at found
      · simp [first] at found
  added := by
    rintro (_ | ⟨name, rest⟩) entries found
    · exact .inl ⟨_, rfl⟩
    · unfold litteredTree Files.Node.find? Files.Node.lookup Files.Node.lookup at found
      by_cases first : "a.py" = name
      · cases rest <;> simp [first, Files.Node.find?] at found
      · by_cases second : "b.py" = name
        · cases rest <;> simp [first, second, Files.Node.find?] at found
        · simp [first, second, Files.Node.lookup] at found
  broken := by
    intro place listed
    rw [List.mem_singleton.mp listed]
    exact ⟨_, rfl, by cbv⟩

def bareGuide : Guide := ⟨⟨"a.A", "a.A", "a.A"⟩, standardVerbs, none⟩

theorem littered_scan :
    Padded bareTree litteredTree [["b.py"]] ∧
    ∃ grown, Table.empty.takeRoots litteredTree [bareRoot] = (grown, none) ∧
      grown.types = bareTable.types ∧ grown.skipped.filter (leadsInto litteredTree [["b.py"]]) =
        [⟨.relative, ["b.py"]⟩] := by
  have directories : ∀ root ∈ [bareRoot], bareTree.isDirectory root = true := by
    intro root listed
    rw [List.mem_singleton.mp listed]
    rfl
  have markers : ∀ root ∈ [bareRoot],
      leadsInto litteredTree [["b.py"]] (root.join ["__init__.py"]) = false := by
    intro root listed
    rw [List.mem_singleton.mp listed]
    rfl
  obtain ⟨-, scanned⟩ := padded_scan littered_padded directories markers bareGuide
  obtain ⟨grown, application, events, taken, types, -, -, -, skips, -⟩ := scanned bareTable bare_taken
  refine ⟨littered_padded, grown, taken, types, ?_⟩
  rw [skips, littered_visits]
  rfl

end EndpointCatalog.Discovery
