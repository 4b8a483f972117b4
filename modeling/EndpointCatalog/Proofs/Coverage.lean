import EndpointCatalog.Proofs.Computable
import EndpointCatalog.Proofs.Records
import EndpointCatalog.Proofs.Visits
import Mathlib

namespace EndpointCatalog.Symbol

open Files (Path Tree Node)
open Source (Scope Stmt EvalError)

-- A root that is a file is its own source, whatever its name.
inductive SourceAt (tree : Tree) (root : Path) : Path × String → Prop where
  | top (found : tree.node root = .ok (.file content)) : SourceAt tree root (root, root.stem)
  | below (found : tree.node root = .ok (.directory entries))
      (inside : (Node.directory entries).find? parts = some entry) (source : isSource parts = true) :
      SourceAt tree root (visitBelow tree root parts)

variable {tree : Tree} {root : Path} {file : Path × String} {table : Table}

theorem mem_visits (proper : tree.top.Proper) : file ∈ visits tree root ↔ SourceAt tree root file := by
  constructor
  · intro visit
    unfold visits at visit
    split at visit
    · cases visit
    · rename_i content found
      rw [List.mem_singleton.mp visit]
      exact .top found
    · rename_i node other found
      obtain ⟨parts, listed, rfl⟩ := List.mem_map.mp visit
      obtain ⟨⟨entry, inside⟩, source⟩ := (source_found (Tree.node_proper proper found)).mp listed
      cases node with
      | file content => exact absurd rfl (other content)
      | directory entries => exact .below found inside source
  · rintro (⟨found⟩ | ⟨found, inside, source⟩)
    · simp [visits, found]
    · rw [visits_directory found]
      have listed := (source_found (Tree.node_proper proper found)).mpr ⟨⟨_, inside⟩, source⟩
      exact List.mem_map_of_mem listed

theorem source_exists (proper : tree.top.Proper) (source : SourceAt tree root file) :
    ∃ node, tree.node file.1 = .ok node := by
  cases source with
  | top found => exact ⟨_, found⟩
  | below found inside source => exact ⟨_, Tree.node_inside proper found inside⟩

theorem read_file (found : tree.node path = .ok node) :
    tree.isDirectory path = false ↔ ∃ content, tree.read path = .ok content := by
  unfold Tree.isDirectory Tree.read
  rw [found]
  cases node <;> simp

-- Whether a file can be taken in whole.
def Takeable (tree : Tree) (file : Path × String) : Prop :=
  tree.isDirectory file.1 = false ∧
    ∀ content, tree.read file.1 = .ok content → ∀ body, statementsOf? content = some body →
      Computable file.1 file.2 body

theorem contribution_failure (found : tree.node file.1 = .ok node) :
    (contribution tree file).failure = none ↔ Takeable tree file := by
  unfold Takeable
  rw [read_file found]
  unfold contribution
  cases read : tree.read file.1 with
  | error e => simp
  | ok content =>
    cases parsed : statementsOf? content with
    | none => simp [parsed]
    | some body => simp [parsed, ofModule_failure]

theorem contribution_error (found : tree.node file.1 = .ok node)
    (failed : (contribution tree file).failure = some e) :
    e = .wholeTooLarge ∨ e = .file ⟨.isDirectory, file.1⟩ := by
  unfold contribution at failed
  cases read : tree.read file.1 with
  | error cause =>
    rw [read] at failed
    cases failed
    refine .inr ?_
    unfold Tree.read at read
    rw [found] at read
    cases node <;> cases read
    rfl
  | ok content =>
    rw [read] at failed
    cases parsed : statementsOf? content with
    | none => simp [parsed] at failed
    | some body =>
      refine .inl ?_
      simp only [parsed] at failed
      unfold ofModule at failed
      split at failed
      · cases failed
        rfl
      · obtain ⟨cause, -, rfl⟩ := Option.map_eq_some_iff.mp failed
        rfl

theorem accepted_whole {entries : List (Except EvalError TypeDecl)} (whole : refusal? entries = none) :
    entries = (accepted entries).map .ok := by
  induction entries with
  | nil => rfl
  | cons entry rest ih =>
    cases entry with
    | error e => cases whole
    | ok type =>
      rw [accepted, List.map_cons, ← ih whole]

-- A file that is skipped is taken in whole as well.
theorem contribution_covers (whole : (contribution tree file).failure = none) :
    ∃ content, tree.read file.1 = .ok content ∧
      ((statementsOf? content = none ∧ (contribution tree file).skipped = [file.1]) ∨
        ∃ body, statementsOf? content = some body ∧ ∀ qualname, Reached file.2 body qualname →
          ∃ type, .declared type ∈ (contribution tree file).records ∧ type.qualname = qualname) := by
  unfold contribution at whole ⊢
  cases read : tree.read file.1 with
  | error e => simp [read] at whole
  | ok content =>
    refine ⟨content, rfl, ?_⟩
    rw [read] at whole
    cases parsed : statementsOf? content with
    | none => exact .inl ⟨rfl, by simp [parsed]⟩
    | some body =>
      refine .inr ⟨body, rfl, ?_⟩
      simp only [parsed] at whole ⊢
      unfold ofModule at whole ⊢
      split at whole
      · cases whole
      · rename_i scope opened
        dsimp only
        have accepts := accepted_whole (Option.map_eq_none_iff.mp whole)
        intro qualname reached
        obtain ⟨type, member, rfl⟩ := List.mem_map.mp ((declarations_reached accepts).mpr reached)
        exact ⟨type, List.mem_append_right _ (List.mem_map_of_mem member), rfl⟩

theorem takeRoot_covers (proper : tree.top.Proper) :
    (∀ cause, tree.node root = .error cause → table.takeRoot tree root = (table, none)) ∧
    ((table.takeRoot tree root).2 = none ↔ ∀ file, SourceAt tree root file → Takeable tree file) ∧
    (∀ e, (table.takeRoot tree root).2 = some e →
      e = .wholeTooLarge ∨ ∃ file, SourceAt tree root file ∧ e = .file ⟨.isDirectory, file.1⟩) ∧
    ((table.takeRoot tree root).2 = none → ∀ file, SourceAt tree root file →
      ∃ content, tree.read file.1 = .ok content ∧
        ((statementsOf? content = none ∧ file.1 ∈ (table.takeRoot tree root).1.skipped) ∨
          ∃ body, statementsOf? content = some body ∧ ∀ qualname, Reached file.2 body qualname →
            (table.takeRoot tree root).1.declares qualname = true)) := by
  refine ⟨fun cause missing => by simp [Table.takeRoot, missing], ?_⟩
  rw [Table.takeRoot_visits]
  refine ⟨?_, fun e failed => ?_, fun whole file source => ?_⟩
  · rw [Table.takeFiles_whole]
    constructor
    · intro each file source
      obtain ⟨node, found⟩ := source_exists proper source
      exact (contribution_failure found).mp (each file ((mem_visits proper).mpr source))
    · intro each file visit
      have source := (mem_visits proper).mp visit
      obtain ⟨node, found⟩ := source_exists proper source
      exact (contribution_failure found).mpr (each file source)
  · rw [Table.takeFiles_failure] at failed
    obtain ⟨file, visit, own⟩ := List.exists_of_findSome?_eq_some failed
    have source := (mem_visits proper).mp visit
    obtain ⟨node, found⟩ := source_exists proper source
    rcases contribution_error found own with large | directory
    · exact .inl large
    · exact .inr ⟨file, source, directory⟩
  · have each := Table.takeFiles_whole.mp whole
    have visit := (mem_visits proper).mpr source
    obtain ⟨content, read, covered⟩ := contribution_covers (each file visit)
    refine ⟨content, read, ?_⟩
    rw [Table.takeFiles_every each, Table.takeEvery_contributes]
    rcases covered with ⟨unparsed, own⟩ | ⟨body, parsed, classes⟩
    · refine .inl ⟨unparsed, List.mem_append_right _ (List.mem_flatMap.mpr ⟨file, visit, ?_⟩)⟩
      rw [own]
      exact List.mem_singleton_self _
    · refine .inr ⟨body, parsed, fun qualname reached => ?_⟩
      obtain ⟨type, recorded, rfl⟩ := classes qualname reached
      have member : Record.declared type ∈
          (visits tree root).flatMap fun file => (contribution tree file).records :=
        List.mem_flatMap.mpr ⟨file, visit, recorded⟩
      exact Table.recordAll_holds member

def coveredText : String := "class A: pass\n"

def coveredTree : Tree :=
  ⟨.directory [("a.py", .file coveredText.toUTF8.toList), ("b.py", .file [0xff]),
    ("venv", .directory [("x.py", .directory [])])], []⟩

def hereRoot : Path := ⟨.relative, []⟩

def classFile : Path × String := (⟨.relative, ["a.py"]⟩, "a")

def brokenFile : Path × String := (⟨.relative, ["b.py"]⟩, "b")

def coveredBody : List Stmt := [.classDef 1 "A" [] [] [.other]]

theorem covered_proper : coveredTree.top.Proper := by
  refine Node.proper_directory (by decide) (by decide) ?_
  intro entry listed
  rcases List.mem_cons.mp listed with rfl | others
  · exact Node.proper_file
  · rcases List.mem_pair.mp others with rfl | rfl
    · exact Node.proper_file
    · refine Node.proper_directory (by decide) (by decide) ?_
      intro entry only
      rw [List.mem_singleton.mp only]
      exact Node.proper_directory (by decide) (by decide) (by simp)

theorem covered_visits : visits coveredTree hereRoot = [classFile, brokenFile] := by
  unfold coveredTree coveredText hereRoot classFile brokenFile
  cbv

set_option maxRecDepth 4000 in
theorem covered_parsed :
    statementsOf? coveredText.toUTF8.toList = some coveredBody ∧ statementsOf? [0xff] = none := by
  unfold coveredText coveredBody
  constructor
  · cbv
  · cbv

theorem covered_computable : Computable classFile.1 classFile.2 coveredBody where
  constants := by simp [coveredBody, Scope.constantsOf, Source.topLevel, Source.constantOf?]
  arguments := by simp [coveredBody, Computes, decoratorsOf, methodDecorators]

theorem covered_whole :
    coveredTree.top.Proper ∧
    (Table.empty.takeRoot coveredTree hereRoot).2 = none ∧
    (Table.empty.takeRoot coveredTree hereRoot).1.declares "a.A" = true ∧
    brokenFile.1 ∈ (Table.empty.takeRoot coveredTree hereRoot).1.skipped := by
  obtain ⟨-, ends, -, covers⟩ := @takeRoot_covers coveredTree hereRoot Table.empty covered_proper
  have sources : ∀ file, SourceAt coveredTree hereRoot file ↔ file = classFile ∨ file = brokenFile := by
    intro file
    rw [← mem_visits covered_proper, covered_visits, List.mem_pair]
  have whole : (Table.empty.takeRoot coveredTree hereRoot).2 = none := by
    refine ends.mpr fun file source => ?_
    rcases (sources file).mp source with rfl | rfl
    · refine ⟨rfl, ?_⟩
      rintro _ ⟨rfl⟩ body parsed
      rw [covered_parsed.1] at parsed
      cases parsed
      exact covered_computable
    · refine ⟨rfl, ?_⟩
      rintro _ ⟨rfl⟩ body parsed
      rw [covered_parsed.2] at parsed
      cases parsed
  refine ⟨covered_proper, whole, ?_, ?_⟩
  · obtain ⟨_, ⟨rfl⟩, ⟨unparsed, -⟩ | ⟨body, parsed, classes⟩⟩ :=
      covers whole classFile ((sources classFile).mpr (.inl rfl))
    · rw [covered_parsed.1] at unparsed
      cases unparsed
    · rw [covered_parsed.1] at parsed
      cases parsed
      exact classes "a.A" .here
  · obtain ⟨_, ⟨rfl⟩, ⟨-, skipped⟩ | ⟨body, parsed, -⟩⟩ :=
      covers whole brokenFile ((sources brokenFile).mpr (.inr rfl))
    · exact skipped
    · rw [covered_parsed.2] at parsed
      cases parsed

def blockedTree : Tree :=
  ⟨.directory [("a.py", .directory []), ("b.py", .file "class B: pass\n".toUTF8.toList)], []⟩

def blockedFile : Path × String := (⟨.relative, ["b.py"]⟩, "b")

-- The intake ends at the directory, and the module behind it is neither taken in nor skipped.
theorem blocked_ends :
    SourceAt blockedTree hereRoot blockedFile ∧
    Table.empty.takeRoot blockedTree hereRoot =
      (Table.empty, some (.file ⟨.isDirectory, ⟨.relative, ["a.py"]⟩⟩)) := by
  have source : SourceAt blockedTree hereRoot (visitBelow blockedTree hereRoot ["b.py"]) :=
    .below rfl rfl (by decide)
  have named : visitBelow blockedTree hereRoot ["b.py"] = blockedFile := by
    unfold blockedTree hereRoot blockedFile
    cbv
  refine ⟨named ▸ source, ?_⟩
  unfold blockedTree hereRoot
  cbv

end EndpointCatalog.Symbol
