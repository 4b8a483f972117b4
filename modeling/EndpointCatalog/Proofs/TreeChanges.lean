import EndpointCatalog.Proofs.TreeEntries

namespace EndpointCatalog.Files.Tree

open Text (Codes)

variable {tree grown middle after : Tree} {path inner : Path} {content : List UInt8}

-- Whatever there is stays, and what is new is a directory that the path passes.
structure Widens (path : Path) (tree grown : Tree) : Prop where
  here : grown.here = tree.here
  kept : ∀ place entry, tree.entryAt place = some entry → grown.entryAt place = some entry
  added : ∀ place, tree.entryAt place = none → (grown.entryAt place).isSome = true →
    grown.entryAt place = some .directory ∧
      ∃ outer, outer <+: path.parts ∧ grown.locate ⟨path.root, outer⟩ = .ok place

theorem Widens.refl (path : Path) (tree : Tree) : Widens path tree tree := by
  refine ⟨rfl, fun _ _ there => there, fun place nothing there => ?_⟩
  rw [nothing] at there
  cases there

theorem Widens.locates (widens : Widens path tree grown) (located : tree.locate other = .ok place) :
    grown.locate other = .ok place := by
  refine locate_kept widens.here (fun place => widens.kept place .directory) ?_ located
  intro place there
  obtain ⟨entry, found⟩ := Option.isSome_iff_exists.mp there
  rw [widens.kept place entry found]
  rfl

theorem Widens.trans (first : Widens inner tree middle) (second : Widens path middle grown)
    (root : inner.root = path.root) (parts : inner.parts <+: path.parts) : Widens path tree grown := by
  refine ⟨second.here.trans first.here, fun place entry there =>
    second.kept place entry (first.kept place entry there), fun place nothing there => ?_⟩
  cases between : middle.entryAt place with
  | none => exact second.added place between there
  | some entry =>
    obtain ⟨directory, outer, front, located⟩ := first.added place nothing (by rw [between]; rfl)
    refine ⟨second.kept place .directory directory, outer, front.trans parts, ?_⟩
    rw [← root]
    exact second.locates located

theorem makeDirectory_widens (made : tree.makeDirectory path = .ok grown) :
    Widens path tree grown := by
  obtain ⟨-, outer, vacant, nothing, -, rfl⟩ := makeDirectory_fills.mp made
  refine ⟨rfl, fun place entry there => ?_, fun place missing there => ?_⟩
  · rw [entry_fill vacant Node.bare_directory, if_neg, there]
    rintro rfl
    rw [nothing] at there
    cases there
  · rw [entry_fill vacant Node.bare_directory] at there ⊢
    split at there
    · rename_i own
      subst own
      rw [if_pos rfl]
      exact ⟨rfl, path.parts, List.prefix_rfl, locate_fill vacant Node.bare_directory⟩
    · rw [missing] at there
      cases there

theorem settle_tree : (tree.settle path cause).1 = tree := by
  unfold settle
  split <;> rfl

theorem parent_leads (path : Path) : path.parent.parts <+: path.parts := List.dropLast_prefix _

theorem makeDirectories_widens : Widens path tree (tree.makeDirectories path).1 := by
  fun_induction makeDirectories tree path with
  | case1 path made created => exact makeDirectory_widens created
  | case2 => exact .refl ..
  | case3 path missing named shorter grown e failed ih =>
    rw [failed] at ih
    exact ih.trans (.refl path grown) rfl (parent_leads path)
  | case4 path missing named shorter grown above made created ih =>
    rw [above] at ih
    exact ih.trans (makeDirectory_widens created) rfl (parent_leads path)
  | case5 path missing named shorter grown above cause failed ih =>
    rw [above] at ih
    rw [settle_tree]
    exact ih.trans (.refl path grown) rfl (parent_leads path)
  | case6 path cause other failed =>
    rw [settle_tree]
    exact .refl ..

def Fresh (tree : Tree) (path : Path) : Prop :=
  ∃ place, tree.locate path = .ok place ∧ tree.entryAt place = some .directory ∧
    ∀ name, tree.entryAt (place ++ [name]) = none

theorem makeDirectory_fresh (made : tree.makeDirectory path = .ok grown) : grown.Fresh path := by
  obtain ⟨-, outer, vacant, nothing, -, rfl⟩ := makeDirectory_fills.mp made
  refine ⟨_, locate_fill vacant Node.bare_directory, ?_, fun name => ?_⟩
  · rw [entry_fill vacant Node.bare_directory, if_pos rfl]
    rfl
  · rw [entry_fill vacant Node.bare_directory, if_neg (by simp)]
    cases below : tree.entryAt (outer ++ [path.name] ++ [name]) with
    | none => rfl
    | some entry => exact absurd (entry_above below) vacant.free

theorem fresh_vacant (fresh : tree.Fresh path.parent) (named : path.parts ≠ [])
    (down : path.name ≠ "..") :
    ∃ outer, Vacant tree path outer ∧ tree.entryAt (outer ++ [path.name]) = none := by
  obtain ⟨outer, located, inside, nothing⟩ := fresh
  exact ⟨outer, ⟨named, down, located, inside, by simp [nothing]⟩, nothing path.name⟩

-- A path that can be asked for, of names that can be given, without a step up.
structure Smooth (path : Path) : Prop where
  down : ".." ∉ path.parts
  allowed : refusal? path = none
  fits : ∀ part ∈ path.parts, absence part = .missing

theorem text_parent (path : Path) :
    path.parent.text = "." ∨ ∃ rest, path.text = path.parent.text ++ rest := by
  by_cases named : path.parts = []
  · have same : path.parent = path := by
      rw [Path.parent, named, List.dropLast_nil, ← named]
    exact .inr ⟨"", by rw [same, String.append_empty]⟩
  · have root : path.parent.root = path.root := rfl
    have apart : path.text = Path.rootText path.root ++ String.intercalate "/" path.parts := by
      rw [Path.text, if_neg fun bare => named bare.2]
    by_cases bare : path.root = .relative ∧ path.parent.parts = []
    · left
      rw [Path.text, root, if_pos bare]
    · right
      rw [apart, Path.text, root, if_neg bare, Path.parts_parent named]
      by_cases above : path.parent.parts = []
      · exact ⟨path.name, by rw [above]; simp⟩
      · refine ⟨"/" ++ path.name, ?_⟩
        rw [String.intercalate_append_of_ne_nil above (List.cons_ne_nil _ _)]
        simp [String.append_assoc]

theorem allowed_parent (allowed : refusal? path = none) : refusal? path.parent = none := by
  unfold refusal? at allowed ⊢
  rcases text_parent path with dot | ⟨rest, shape⟩
  · rw [dot]
    decide
  · rw [shape, String.toList_append, String.utf8ByteSize_append] at allowed
    grind

theorem Smooth.parent (smooth : Smooth path) : Smooth path.parent where
  down up := smooth.down ((parent_leads path).subset up)
  allowed := allowed_parent smooth.allowed
  fits part member := smooth.fits part ((parent_leads path).subset member)

theorem Smooth.last (smooth : Smooth path) (named : path.parts ≠ []) :
    path.name ≠ ".." ∧ absence path.name = .missing := by
  have member : path.name ∈ path.parts := by
    rw [Path.parts_parent named]
    simp
  exact ⟨fun up => smooth.down (up ▸ member), smooth.fits _ member⟩

-- Each directory is new inside of the one made before it, so that nothing can stand in the way.
theorem makeDirectories_smooth (smooth : Smooth path) :
    (tree.makeDirectories path).1 = tree ∨
      (tree.makeDirectories path).2 = none ∧ (tree.makeDirectories path).1.Fresh path := by
  fun_induction makeDirectories tree path with
  | case1 path made created => exact .inr ⟨rfl, makeDirectory_fresh created⟩
  | case2 => exact .inl rfl
  | case3 path missing named shorter grown e failed ih =>
    rw [failed] at ih
    refine .inl ((ih smooth.parent).resolve_right ?_)
    simp
  | case4 path missing named shorter grown above made created ih =>
    exact .inr ⟨rfl, makeDirectory_fresh created⟩
  | case5 path missing named shorter grown above cause failed ih =>
    rw [above] at ih
    rw [settle_tree]
    refine .inl ((ih smooth.parent).resolve_right ?_)
    rintro ⟨-, fresh⟩
    obtain ⟨down, fits⟩ := smooth.last named
    obtain ⟨outer, vacant, nothing⟩ := fresh_vacant fresh named down
    rw [makeDirectory_fills.mpr ⟨smooth.allowed, outer, vacant, nothing, fits, rfl⟩] at failed
    cases failed
  | case6 path cause other failed =>
    rw [settle_tree]
    exact .inl rfl

theorem makeDirectories_root (root : path.parts = []) : (tree.makeDirectories path).1 = tree := by
  have refused : ∃ cause, tree.makeDirectory path = .error cause ∧ cause ≠ .missing := by
    rw [makeDirectory_aims, aim, if_pos root]
    cases asked : refusal? path with
    | none => exact ⟨_, rfl, by decide⟩
    | some cause =>
      refine ⟨cause, rfl, ?_⟩
      unfold refusal? at asked
      grind
  obtain ⟨cause, failed, other⟩ := refused
  unfold makeDirectories
  rw [failed]
  cases cause <;> first | exact settle_tree | exact absurd rfl other

theorem parents_smooth (tree : Tree) (smooth : Smooth path) :
    (tree.makeDirectories path.parent).1 = tree ∨
      (tree.makeDirectories path.parent).2 = none ∧ path.parts ≠ [] ∧
        (tree.makeDirectories path.parent).1.Fresh path.parent := by
  by_cases root : path.parts = []
  · have above : path.parent.parts = [] := by rw [Path.parent, root, List.dropLast_nil]
    exact .inl (makeDirectories_root above)
  · exact (makeDirectories_smooth smooth.parent).imp_right fun ⟨done, fresh⟩ => ⟨done, root, fresh⟩

-- What a write does that reaches its file: the path leads to a file with the content, and everywhere
-- else whatever there was stays and what is new is a directory.
structure Replaces (path : Path) (place : List String) (content : List UInt8) (tree after : Tree) :
    Prop where
  located : after.locate path = .ok place
  content : after.entryAt place = some (.file content)
  free : tree.entryAt place ≠ some .directory
  kept : ∀ other entry, other ≠ place → tree.entryAt other = some entry →
    after.entryAt other = some entry
  added : ∀ other, other ≠ place → tree.entryAt other = none → (after.entryAt other).isSome = true →
    after.entryAt other = some .directory

theorem read_entry : tree.read path = .ok content ↔
    ∃ place, tree.locate path = .ok place ∧ tree.entryAt place = some (.file content) := by
  have file : ∀ node : Node, node.entry = .file content ↔ node = .file content := by
    intro node
    cases node <;> simp [Node.entry]
  simp only [entryAt, Option.map_eq_some_iff, file, exists_eq_right, ← node_located]
  unfold read
  cases tree.node path with
  | error cause => simp
  | ok node => cases node <;> simp

theorem Replaces.read (replaces : Replaces path place content tree after) :
    after.read path = .ok content :=
  read_entry.mpr ⟨place, replaces.located, replaces.content⟩

theorem replaces_fill (widens : Widens path.parent tree grown)
    (opened : grown.openEmpty path = .ok place) :
    Replaces path place content tree (grown.fill place (.file content)) := by
  obtain ⟨-, outer, vacant, -, rfl⟩ := openEmpty_opens.mp opened
  refine ⟨locate_fill vacant Node.bare_file, ?_, ?_, ?_, ?_⟩
  · rw [entry_fill vacant Node.bare_file, if_pos rfl]
    rfl
  · intro directory
    exact vacant.free (widens.kept _ _ directory)
  · intro other entry apart there
    rw [entry_fill vacant Node.bare_file, if_neg apart]
    exact widens.kept other entry there
  · intro other apart nothing there
    rw [entry_fill vacant Node.bare_file, if_neg apart] at there ⊢
    exact (widens.added other nothing there).1

-- A write that is refused has only made directories, and none along a smooth path. One that is torn
-- has emptied its file.
inductive Written (tree : Tree) (path : Path) (text : Codes) : Tree → Option WriteError → Prop
  | done (encoded : Text.encode text = .ok bytes) (replaces : Replaces path place bytes tree left) :
      Written tree path text left none
  | torn (unencoded : Text.encode text = .error e) (replaces : Replaces path place [] tree left) :
      Written tree path text left (some (.encoding e))
  | refused (widens : Widens path tree left) (smooth : Smooth path → left = tree) :
      Written tree path text left (some (.file e))

theorem overwrite_written (widens : Widens path.parent tree grown)
    (smooth : Smooth path → (grown.openEmpty path).isOk = true ∨ grown = tree) :
    Written tree path text (grown.overwrite path text).1 (grown.overwrite path text).2 := by
  unfold overwrite
  cases opened : grown.openEmpty path with
  | error cause =>
    refine .refused (widens.trans (.refl path grown) rfl (parent_leads path)) fun along => ?_
    have either := smooth along
    rw [opened] at either
    simpa [Except.isOk, Except.toBool] using either
  | ok place =>
    cases encoded : Text.encode text with
    | error e => exact .torn encoded (replaces_fill widens opened)
    | ok bytes => exact .done encoded (replaces_fill widens opened)

theorem write_written (tree : Tree) (path : Path) (text : Codes) :
    Written tree path text (tree.write path text).1 (tree.write path text).2 := by
  have widens : Widens path.parent tree (tree.makeDirectories path.parent).1 := makeDirectories_widens
  have smooth : Smooth path → _ := parents_smooth tree
  unfold write
  cases made : tree.makeDirectories path.parent with
  | mk grown failure =>
    rw [made] at widens smooth
    cases failure with
    | some e =>
      exact .refused (widens.trans (.refl path grown) rfl (parent_leads path)) fun along =>
        (smooth along).resolve_right (by simp)
    | none =>
      refine overwrite_written widens fun along => ?_
      rcases smooth along with same | ⟨-, named, fresh⟩
      · exact .inr same
      · obtain ⟨down, fits⟩ := along.last named
        obtain ⟨outer, vacant, -⟩ := fresh_vacant fresh named down
        rw [openEmpty_opens.mpr ⟨along.allowed, outer, vacant, fun _ => fits, rfl⟩]
        exact .inl rfl

end EndpointCatalog.Files.Tree
