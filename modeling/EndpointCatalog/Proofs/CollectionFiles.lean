import EndpointCatalog.Proofs.GeneratedCollections
import EndpointCatalog.Proofs.TreeChanges
import Mathlib

namespace EndpointCatalog.Collection

open Files (Path Tree Node Entry FileError)
open Discovery (Application)
open Text (Codes codes)

variable {collection : Collection} {tree after : Tree} {path : Path} {application : Application}
  {base id : Codes} {exporterId : Nat}

theorem write_text (shown : collection.text = .ok content) :
    collection.write tree path =
      ((tree.write path content).1, (tree.write path content).2.map .file) := by
  unfold write Tree.write
  cases tree.makeDirectories path.parent with
  | mk grown failure =>
    cases failure with
    | some e => rfl
    | none => simp only [shown]

theorem assembled_text (below : exporterId < exporterBound)
    (assembled : assemble application base id exporterId = .ok collection) :
    ∃ content, collection.text = .ok content := by
  rw [assemble_same assembled]
  exact ⟨_, text_limited (ofApplication_typed application base id exporterId)
    (ofApplication_shows application base id exporterId) (exporter_within below)⟩

theorem generate_assembled (assembled : assemble application base id exporterId = .ok collection) :
    generate application base id exporterId tree path = collection.write tree path := by
  simp only [generate, assembled]

-- No file is touched when a body cannot be written or when the path is refused; a text without an
-- encoding empties the file. Directories that were made stay, and only along a smooth path there
-- are none of them when the path is refused.
theorem generated_written (tree : Tree) (path : Path) (application : Application) (base id : Codes)
    (below : exporterId < exporterBound) :
    (∀ number, assemble application base id exporterId = .error number →
      generate application base id exporterId tree path = (tree, some (.text (.number number)))) ∧
    ∀ collection, assemble application base id exporterId = .ok collection →
      ∃ content, collection.text = .ok content ∧
      (∀ after e, generate application base id exporterId tree path = (after, some e) →
        (∃ refused, e = .file (.file refused) ∧ Tree.Widens path tree after ∧
          (Tree.Smooth path → after = tree)) ∨
        (∃ unencoded place, e = .file (.encoding unencoded) ∧
          Text.encode content = .error unencoded ∧ Tree.Replaces path place [] tree after)) ∧
      (∀ after, generate application base id exporterId tree path = (after, none) →
        ∃ bytes place, Text.encode content = .ok bytes ∧ after.read path = .ok bytes ∧
          Tree.Replaces path place bytes tree after) := by
  refine ⟨fun number failed => by simp only [generate, failed], fun collection assembled => ?_⟩
  obtain ⟨content, shown⟩ := assembled_text below assembled
  have written := Tree.write_written tree path content
  rw [generate_assembled assembled, write_text shown]
  refine ⟨content, shown, fun after e failed => ?_, fun after done => ?_⟩
  · obtain ⟨rfl, cause⟩ := Prod.mk.inj failed
    generalize (tree.write path content).2 = failure at written cause
    cases written with
    | done encoded replaces => cases cause
    | torn unencoded replaces =>
      cases cause
      exact .inr ⟨_, _, rfl, unencoded, replaces⟩
    | refused widens smooth =>
      cases cause
      exact .inl ⟨_, rfl, widens, smooth⟩
  · obtain ⟨rfl, settled⟩ := Prod.mk.inj done
    rw [Option.map_eq_none_iff] at settled
    rw [settled] at written
    cases written with
    | done encoded replaces => exact ⟨_, _, encoded, replaces.read, replaces⟩

def keptTree : Tree :=
  ⟨.directory [("work", .directory [("kept", .file "old".toUTF8.toList)])], ["work"]⟩

def keptPath : Path := ⟨.relative, ["kept"]⟩

def blockedPath : Path := ⟨.relative, ["kept", "new"]⟩

def emptiedTree : Tree := ⟨.directory [("work", .directory [("kept", .file [])])], ["work"]⟩

def windingPath : Path := ⟨.relative, ["new", "..", "new"]⟩

def bareTree : Tree := ⟨.directory [("work", .directory [])], ["work"]⟩

def windingTree : Tree := ⟨.directory [("work", .directory [("new", .directory [])])], ["work"]⟩

def halfApplication : Application := [(⟨"C", none⟩, [⟨"m", none, some [.half 0], none⟩])]

theorem empty_assembled :
    assemble [] defaultBaseUrl "id" 0 = .ok (ofApplication [] defaultBaseUrl "id" 0) := rfl

theorem half_assembled : assemble halfApplication defaultBaseUrl "id" 0 =
    .ok (ofApplication halfApplication defaultBaseUrl "id" 0) := rfl

theorem text_encodes (shown : collection.text = .ok content)
    (known : (collection.text.toOption.map fun text => (Text.encode text).isOk) = some taken) :
    (Text.encode content).isOk = taken := by
  rw [shown] at known
  exact Option.some.inj known

theorem half_unencoded
    (shown : (ofApplication halfApplication defaultBaseUrl "id" 0).text = .ok content) :
    ∃ e, Text.encode content = .error e :=
  Source.notOk_iff.mp (text_encodes shown (by decide +kernel))

theorem empty_encoded (shown : (ofApplication [] defaultBaseUrl "id" 0).text = .ok content) :
    ∃ bytes, Text.encode content = .ok bytes :=
  Source.isOk_iff.mp (text_encodes shown (by decide +kernel))

theorem winding_made : bareTree.makeDirectories windingPath.parent = (windingTree, none) := by
  have allowed : Files.refusal? windingPath.parent = none ∧
      Files.refusal? windingPath.parent.parent = none := by decide
  have missing : bareTree.makeDirectory windingPath.parent = .error .missing := by
    rw [Tree.makeDirectory_aims, Tree.aim, allowed.1]
    rfl
  have inner : bareTree.makeDirectory windingPath.parent.parent = .ok windingTree := by
    rw [Tree.makeDirectory_aims, Tree.aim, allowed.2]
    rfl
  have outer : windingTree.makeDirectory windingPath.parent = .error .occupied := by
    rw [Tree.makeDirectory_aims, Tree.aim, allowed.1]
    rfl
  have above : bareTree.makeDirectories windingPath.parent.parent = (windingTree, none) := by
    rw [Tree.makeDirectories, inner]
  have settled : windingTree.settle windingPath.parent .occupied = (windingTree, none) := by
    rw [Tree.settle, allowed.1]
    rfl
  have named : windingPath.parent.parts ≠ [] := by decide
  rw [Tree.makeDirectories, missing]
  simp only [dif_neg named, above, outer, settled]

theorem winding_write (content : Codes) :
    bareTree.write windingPath content = (windingTree, some (.file ⟨.isDirectory, windingPath⟩)) := by
  have allowed : Files.refusal? windingPath = none := by decide
  have refused : windingTree.openEmpty windingPath = .error .isDirectory := by
    rw [Tree.openEmpty_aims, Tree.aim, allowed]
    rfl
  simp only [Tree.write, winding_made, Tree.overwrite, refused]

theorem kept_write (content : Codes) : keptTree.write keptPath content =
    match Text.encode content with
    | .error e => (emptiedTree, some (.encoding e))
    | .ok bytes => (keptTree.fill ["work", "kept"] (.file bytes), none) := by
  have allowed : Files.refusal? keptPath = none ∧ Files.refusal? keptPath.parent = none := by decide
  have there : keptTree.makeDirectory keptPath.parent = .error .occupied := by
    rw [Tree.makeDirectory_aims, Tree.aim, allowed.2]
    rfl
  have made : keptTree.makeDirectories keptPath.parent = (keptTree, none) := by
    rw [Tree.makeDirectories, there]
    simp only [Tree.settle, allowed.2]
    rfl
  have opened : keptTree.openEmpty keptPath = .ok ["work", "kept"] := by
    rw [Tree.openEmpty_aims, Tree.aim, allowed.1]
    rfl
  simp only [Tree.write, made, Tree.overwrite, opened]
  cases Text.encode content <;> rfl

theorem blocked_write (content : Codes) :
    keptTree.write blockedPath content = (keptTree, some (.file ⟨.occupied, keptPath⟩)) := by
  have allowed : Files.refusal? blockedPath.parent = none := by decide
  have there : keptTree.makeDirectory blockedPath.parent = .error .occupied := by
    rw [Tree.makeDirectory_aims, Tree.aim, allowed]
    rfl
  have refused : keptTree.makeDirectories blockedPath.parent =
      (keptTree, some ⟨.occupied, keptPath⟩) := by
    rw [Tree.makeDirectories, there]
    simp only [Tree.settle, allowed]
    rfl
  simp only [Tree.write, refused]

theorem blocked_smooth : Tree.Smooth blockedPath := ⟨by decide, by decide, by decide⟩

-- The other path makes the directory that keeps it from writing the file.
theorem half_empties :
    (∃ e, generate halfApplication defaultBaseUrl "id" 0 keptTree keptPath =
        (emptiedTree, some (.file (.encoding e)))) ∧
    keptTree.read keptPath = .ok "old".toUTF8.toList ∧ emptiedTree.read keptPath = .ok [] ∧
    generate [] defaultBaseUrl "id" 0 bareTree windingPath =
      (windingTree, some (.file (.file ⟨.isDirectory, windingPath⟩))) ∧
    bareTree.entryAt ["work", "new"] = none ∧ windingTree.entryAt ["work", "new"] = some .directory := by
  have below : 0 < exporterBound := by decide
  obtain ⟨content, shown⟩ := assembled_text below half_assembled
  obtain ⟨e, unencoded⟩ := half_unencoded shown
  obtain ⟨text, said⟩ := assembled_text below empty_assembled
  refine ⟨⟨e, ?_⟩, rfl, rfl, ?_, rfl, rfl⟩
  · rw [generate_assembled half_assembled, write_text shown, kept_write, unencoded]
    rfl
  · rw [generate_assembled empty_assembled, write_text said, winding_write]
    rfl

theorem kept_written :
    0 < exporterBound ∧
    (∃ after bytes, generate [] defaultBaseUrl "id" 0 keptTree keptPath = (after, none) ∧
      after.read keptPath = .ok bytes) ∧
    (∃ after e, generate [] defaultBaseUrl "id" 0 keptTree blockedPath = (after, some e) ∧
      Tree.Smooth blockedPath ∧ after = keptTree) := by
  have below : 0 < exporterBound := by decide
  obtain ⟨_, written⟩ := generated_written keptTree keptPath [] defaultBaseUrl "id" below
  obtain ⟨content, shown, _, done⟩ := written _ empty_assembled
  obtain ⟨_, rewritten⟩ := generated_written keptTree blockedPath [] defaultBaseUrl "id" below
  obtain ⟨text, said, failed, _⟩ := rewritten _ empty_assembled
  obtain ⟨bytes, encoded⟩ := empty_encoded shown
  have kept : generate [] defaultBaseUrl "id" 0 keptTree keptPath =
      (keptTree.fill ["work", "kept"] (.file bytes), none) := by
    rw [generate_assembled empty_assembled, write_text shown, kept_write, encoded]
    rfl
  have blocked : generate [] defaultBaseUrl "id" 0 keptTree blockedPath =
      (keptTree, some (.file (.file ⟨.occupied, keptPath⟩))) := by
    rw [generate_assembled empty_assembled, write_text said, blocked_write]
    rfl
  obtain ⟨_, _, _, read, _⟩ := done _ kept
  refine ⟨below, ⟨_, _, kept, read⟩, _, _, blocked, blocked_smooth, ?_⟩
  rcases failed _ _ blocked with ⟨_, _, _, same⟩ | ⟨_, _, torn, _⟩
  · exact same blocked_smooth
  · cases torn

end EndpointCatalog.Collection
