import EndpointCatalog.Proofs.Places

namespace EndpointCatalog.Files

inductive Entry where
  | file (content : List UInt8)
  | directory
  deriving DecidableEq

namespace Node

variable {node below new : Node} {entries : List (String × Node)}

def entry : Node → Entry
  | .file content => .file content
  | .directory _ => .directory

theorem entry_directory : node.entry = .directory ↔ ∃ entries, node = .directory entries := by
  cases node <;> simp [entry]

def Bare (node : Node) : Prop := ∀ name rest, node.find? (name :: rest) = none

theorem bare_file : (file content).Bare := fun _ _ => rfl

theorem bare_directory : (directory []).Bare := fun _ _ => rfl

theorem lookup_putEntry :
    lookup key (putEntry name node entries) = if key = name then some node else lookup key entries := by
  induction entries with
  | nil => by_cases same : key = name <;> simp [putEntry, lookup, same, eq_comm]
  | cons entry rest ih =>
    obtain ⟨own, old⟩ := entry
    unfold putEntry
    by_cases taken : own = name
    · by_cases same : key = name <;> simp [lookup, taken, same, eq_comm]
    · rw [if_neg taken]
      by_cases found : own = key
      · have other : key ≠ name := fun same => taken (found.trans same)
        simp [lookup, found, other]
      · simpa [lookup, found] using ih

theorem put_entry : put new [name] (.directory entries) = .directory (putEntry name new entries) := by
  unfold put
  cases lookup name entries <;> rfl

theorem put_below (found : lookup first entries = some below) :
    put new (first :: rest) (.directory entries) =
      .directory (putEntry first (put new rest below) entries) := by
  simp only [put, found]

theorem find_first (found : node.find? (first :: outer) = some below) :
    ∃ entries inner, node = .directory entries ∧ lookup first entries = some inner ∧
      inner.find? outer = some below := by
  cases node with
  | file content => cases found
  | directory entries =>
    unfold find? at found
    split at found
    · rename_i inner looked
      exact ⟨entries, inner, rfl, looked, found⟩
    · cases found

theorem find_put (parent : node.find? outer = some (.directory entries)) :
    (put new (outer ++ [name]) node).find? (outer ++ [name]) = some new := by
  induction outer generalizing node with
  | nil =>
    cases parent
    rw [List.nil_append, put_entry, find?, lookup_putEntry, if_pos rfl]
    rfl
  | cons first outer ih =>
    obtain ⟨inside, inner, rfl, looked, deeper⟩ := find_first parent
    rw [List.cons_append, put_below looked, find?, lookup_putEntry, if_pos rfl]
    exact ih deeper

-- Places that are not below the new node keep what stands there.
theorem entry_put (parent : node.find? outer = some (.directory entries))
    (apart : ¬ outer ++ [name] <+: other) :
    ((put new (outer ++ [name]) node).find? other).map entry = (node.find? other).map entry := by
  induction outer generalizing node other with
  | nil =>
    cases parent
    rw [List.nil_append] at apart ⊢
    rw [put_entry]
    cases other with
    | nil => rfl
    | cons key rest =>
      have different : key ≠ name := by
        rintro rfl
        exact apart ⟨rest, rfl⟩
      rw [find?, lookup_putEntry, if_neg different, find?]
  | cons first outer ih =>
    obtain ⟨inside, inner, rfl, looked, deeper⟩ := find_first parent
    rw [List.cons_append, put_below looked]
    cases other with
    | nil => rfl
    | cons key rest =>
      rw [find?, lookup_putEntry]
      by_cases same : key = first
      · subst same
        rw [if_pos rfl, find?, looked]
        refine ih deeper ?_
        rintro ⟨more, shape⟩
        exact apart ⟨more, congrArg (key :: ·) shape⟩
      · rw [if_neg same, find?]

end Node

namespace Path

variable {path : Path}

theorem parts_parent (some : path.parts ≠ []) : path.parts = path.parent.parts ++ [path.name] := by
  have last : path.name = path.parts.getLast some := by
    rw [name, List.getLastD_eq_getLast?, List.getLast?_eq_some_getLast some, Option.getD_some]
  rw [last]
  exact (List.dropLast_append_getLast some).symm

theorem join_parent (some : path.parts ≠ []) : path.parent.join [path.name] = path := by
  rw [join, ← parts_parent some]
  rfl

end Path

namespace Tree

variable {tree grown middle after : Tree} {path inner : Path} {new : Node} {content : List UInt8}

def entryAt (tree : Tree) (place : List String) : Option Entry := (tree.top.find? place).map Node.entry

theorem entry_directory : tree.entryAt place = some .directory ↔
    ∃ entries, tree.top.find? place = some (.directory entries) := by
  simp [entryAt, Node.entry_directory]

theorem step_entry : tree.step place part = .ok next ↔
    tree.entryAt place = some .directory ∧
      (part = ".." ∧ next = place.dropLast ∨
        part ≠ ".." ∧ (tree.entryAt (place ++ [part])).isSome = true ∧ next = place ++ [part]) := by
  rw [entry_directory]
  unfold step
  cases found : tree.top.find? place with
  | none => simp
  | some node =>
    cases node with
    | file content => simp
    | directory entries =>
      have there : (tree.entryAt (place ++ [part])).isSome = (Node.lookup part entries).isSome := by
        rw [entryAt, Node.find_append, found, Option.bind_some, Node.find?]
        cases Node.lookup part entries <;> rfl
      by_cases up : part = ".."
      · simp [up, @eq_comm _ next]
      · cases looked : Node.lookup part entries with
        | none => simp [up, there, looked]
        | some below => simp [up, there, looked, @eq_comm _ next]

theorem locate_last (some : path.parts ≠ []) :
    tree.locate path = tree.locate path.parent >>= fun place => tree.step place path.name := by
  conv => lhs; rw [← Path.join_parent some, locate_join]
  exact congrArg _ (funext fun place => bind_pure _)

-- A path leads to the same place as long as directories stay directories and entries stay there.
theorem locate_kept (here : grown.here = tree.here)
    (kept : ∀ place, tree.entryAt place = some .directory → grown.entryAt place = some .directory)
    (present : ∀ place, (tree.entryAt place).isSome = true → (grown.entryAt place).isSome = true)
    (located : tree.locate path = .ok place) : grown.locate path = .ok place := by
  have steps (start : List String) (part : String) (next : List String)
      (walked : tree.step start part = .ok next) : grown.step start part = .ok next := by
    obtain ⟨directory, onward⟩ := step_entry.mp walked
    exact step_entry.mpr ⟨kept start directory, onward.imp_right fun ⟨down, there, shape⟩ =>
      ⟨down, present _ there, shape⟩⟩
  have begins : grown.start path.root = tree.start path.root := by
    rw [start, start, here]
  rw [locate, begins]
  exact Source.foldlM_mono steps located

-- The directory above is there, and no directory is in the place itself.
structure Vacant (tree : Tree) (path : Path) (outer : List String) : Prop where
  named : path.parts ≠ []
  down : path.name ≠ ".."
  located : tree.locate path.parent = .ok outer
  inside : tree.entryAt outer = some .directory
  free : tree.entryAt (outer ++ [path.name]) ≠ some .directory

theorem entry_above (there : tree.entryAt (place ++ name :: rest) = some entry) :
    tree.entryAt place = some .directory := by
  rw [entryAt, Node.find_append] at there
  rw [entry_directory]
  cases found : tree.top.find? place with
  | none => simp [found] at there
  | some node =>
    cases node with
    | file content => simp [found, Node.find?] at there
    | directory entries => exact ⟨entries, rfl⟩

theorem entry_fill (vacant : Vacant tree path outer) (bare : new.Bare) :
    (tree.fill (outer ++ [path.name]) new).entryAt place =
      if place = outer ++ [path.name] then some new.entry else tree.entryAt place := by
  obtain ⟨entries, parent⟩ := entry_directory.mp vacant.inside
  by_cases own : place = outer ++ [path.name]
  · rw [if_pos own, own, entryAt, fill, Node.find_put parent, Option.map_some]
  · rw [if_neg own]
    by_cases below : outer ++ [path.name] <+: place
    · -- Nothing is below the place, neither before nor afterwards.
      obtain ⟨more, rfl⟩ := below
      cases more with
      | nil => exact absurd (List.append_nil _) own
      | cons name rest =>
        have after : (tree.fill (outer ++ [path.name]) new).entryAt
            (outer ++ [path.name] ++ name :: rest) = none := by
          rw [entryAt, Node.find_append, fill, Node.find_put parent, Option.bind_some, bare]
          rfl
        rw [after]
        cases before : tree.entryAt (outer ++ [path.name] ++ name :: rest) with
        | none => rfl
        | some entry => exact absurd (entry_above before) vacant.free
    · exact Node.entry_put parent below

theorem target_inside : tree.target path = .ok place ↔
    ∃ outer, tree.locate path.parent = .ok outer ∧ tree.entryAt outer = some .directory ∧
      place = outer ++ [path.name] := by
  unfold target
  cases located : tree.locate path.parent with
  | error cause => simp [bind, Except.bind]
  | ok outer =>
    cases found : tree.top.find? outer with
    | none => simp [bind, Except.bind, entryAt, found, throw, throwThe, MonadExceptOf.throw]
    | some node =>
      cases node with
      | file content =>
        simp [bind, Except.bind, entryAt, found, Node.entry, throw, throwThe, MonadExceptOf.throw]
      | directory entries =>
        simp [bind, Except.bind, entryAt, found, Node.entry, pure, Except.pure, @eq_comm _ place]

-- What making a directory and opening a file have in common: the way to the place of a last part that
-- is a name. `taken` is why there can be nothing new at a path without one.
def aim (tree : Tree) (path : Path) (taken : Cause) : Except Cause (List String) :=
  match refusal? path with
  | some cause => .error cause
  | none =>
    if path.parts = [] then .error taken
    else match tree.target path with
    | .error cause => .error cause
    | .ok place => if path.name = ".." then .error taken else .ok place

theorem aim_ok : tree.aim path taken = .ok place ↔
    refusal? path = none ∧ path.parts ≠ [] ∧ tree.target path = .ok place ∧ path.name ≠ ".." := by
  unfold aim
  cases refusal? path with
  | some cause => simp
  | none =>
    by_cases named : path.parts = []
    · simp [named]
    · cases tree.target path with
      | error cause => simp [named]
      | ok target => by_cases up : path.name = ".." <;> simp [named, up]

theorem aim_then {α : Type} (settle : List String → Except Cause α) :
    (do
      if let some cause := refusal? path then throw cause
      if path.parts = [] then throw taken
      let place ← tree.target path
      if path.name = ".." then throw taken
      settle place) = tree.aim path taken >>= settle := by
  unfold aim
  cases refusal? path with
  | some cause => rfl
  | none =>
    by_cases named : path.parts = []
    · simp only [if_pos named]
      rfl
    · simp only [if_neg named]
      cases tree.target path with
      | error cause => rfl
      | ok place =>
        by_cases up : path.name = ".."
        · simp only [if_pos up]
          rfl
        · simp only [if_neg up]

theorem makeDirectory_aims : tree.makeDirectory path = tree.aim path .occupied >>= fun place =>
    match tree.entryAt place with
    | some _ => .error .occupied
    | none =>
      if absence path.name = .missing then .ok (tree.fill place (.directory []))
      else .error (absence path.name) := by
  refine (aim_then _).trans (bind_congr fun place => ?_)
  rw [entryAt]
  cases tree.top.find? place <;> rfl

theorem openEmpty_aims : tree.openEmpty path = tree.aim path .isDirectory >>= fun place =>
    match tree.entryAt place with
    | some .directory => .error .isDirectory
    | some (.file _) => .ok place
    | none =>
      if absence path.name = .missing then .ok place else .error (absence path.name) := by
  refine (aim_then _).trans (bind_congr fun place => ?_)
  rw [entryAt]
  cases tree.top.find? place with
  | none => rfl
  | some node => cases node <;> rfl

theorem aim_vacant : tree.aim path taken = .ok place ∧ tree.entryAt place ≠ some .directory ↔
    refusal? path = none ∧ ∃ outer, Vacant tree path outer ∧ place = outer ++ [path.name] := by
  rw [aim_ok]
  constructor
  · rintro ⟨⟨allowed, named, opened, down⟩, free⟩
    obtain ⟨outer, located, inside, rfl⟩ := target_inside.mp opened
    exact ⟨allowed, outer, ⟨named, down, located, inside, free⟩, rfl⟩
  · rintro ⟨allowed, outer, vacant, rfl⟩
    have opened := target_inside.mpr ⟨outer, vacant.located, vacant.inside, rfl⟩
    exact ⟨⟨allowed, vacant.named, opened, vacant.down⟩, vacant.free⟩

theorem makeDirectory_fills : tree.makeDirectory path = .ok grown ↔
    refusal? path = none ∧ ∃ outer, Vacant tree path outer ∧
      tree.entryAt (outer ++ [path.name]) = none ∧ absence path.name = .missing ∧
      grown = tree.fill (outer ++ [path.name]) (.directory []) := by
  rw [makeDirectory_aims, Source.bind_gives]
  constructor
  · rintro ⟨place, aimed, made⟩
    split at made
    · cases made
    · rename_i nothing
      obtain ⟨allowed, outer, vacant, rfl⟩ := aim_vacant.mp ⟨aimed, by simp [nothing]⟩
      split at made
      · rename_i fits
        cases made
        exact ⟨allowed, outer, vacant, nothing, fits, rfl⟩
      · cases made
  · rintro ⟨allowed, outer, vacant, nothing, fits, rfl⟩
    obtain ⟨aimed, -⟩ := aim_vacant.mpr ⟨allowed, outer, vacant, rfl⟩
    refine ⟨_, aimed, ?_⟩
    simp only [nothing, if_pos fits]

theorem openEmpty_opens : tree.openEmpty path = .ok place ↔
    refusal? path = none ∧ ∃ outer, Vacant tree path outer ∧
      (tree.entryAt (outer ++ [path.name]) = none → absence path.name = .missing) ∧
      place = outer ++ [path.name] := by
  rw [openEmpty_aims, Source.bind_gives]
  constructor
  · rintro ⟨target, aimed, done⟩
    split at done
    · cases done
    · rename_i content there
      cases done
      obtain ⟨allowed, outer, vacant, rfl⟩ := aim_vacant.mp ⟨aimed, by simp [there]⟩
      exact ⟨allowed, outer, vacant, by simp [there], rfl⟩
    · rename_i nothing
      split at done
      · rename_i fits
        cases done
        obtain ⟨allowed, outer, vacant, rfl⟩ := aim_vacant.mp ⟨aimed, by simp [nothing]⟩
        exact ⟨allowed, outer, vacant, fun _ => fits, rfl⟩
      · cases done
  · rintro ⟨allowed, outer, vacant, fits, rfl⟩
    obtain ⟨aimed, free⟩ := aim_vacant.mpr ⟨allowed, outer, vacant, rfl⟩
    refine ⟨_, aimed, ?_⟩
    cases there : tree.entryAt (outer ++ [path.name]) with
    | none =>
      simp only [if_pos (fits there)]
    | some entry =>
      cases entry with
      | directory => exact absurd there free
      | file content => rfl

theorem fill_present (vacant : Vacant tree path outer) (bare : new.Bare)
    (there : (tree.entryAt place).isSome = true) :
    ((tree.fill (outer ++ [path.name]) new).entryAt place).isSome = true := by
  rw [entry_fill vacant bare]
  split
  · rfl
  · exact there

theorem fill_keeps (vacant : Vacant tree path outer) (bare : new.Bare)
    (there : tree.entryAt place = some .directory) :
    (tree.fill (outer ++ [path.name]) new).entryAt place = some .directory := by
  rw [entry_fill vacant bare, if_neg]
  · exact there
  · rintro rfl
    exact vacant.free there

theorem locate_fill (vacant : Vacant tree path outer) (bare : new.Bare) :
    (tree.fill (outer ++ [path.name]) new).locate path = .ok (outer ++ [path.name]) := by
  have here : (tree.fill (outer ++ [path.name]) new).here = tree.here := rfl
  have parent : (tree.fill (outer ++ [path.name]) new).locate path.parent = .ok outer :=
    locate_kept here (fun _ => fill_keeps vacant bare) (fun _ => fill_present vacant bare)
      vacant.located
  rw [locate_last vacant.named, parent]
  refine step_entry.mpr ⟨fill_keeps vacant bare vacant.inside, .inr ⟨vacant.down, ?_, rfl⟩⟩
  rw [entry_fill vacant bare, if_pos rfl]
  rfl

end Tree

end EndpointCatalog.Files
