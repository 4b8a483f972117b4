import EndpointCatalog.Files.Tree
import EndpointCatalog.Proofs.Outcomes
import Mathlib.Data.List.Nodup

namespace EndpointCatalog.Files

namespace Node

variable {node below : Node} {entries : List (String × Node)}

theorem find_append {outer inner : List String} :
    node.find? (outer ++ inner) = (node.find? outer).bind (·.find? inner) := by
  induction outer generalizing node with
  | nil => rfl
  | cons name rest ih =>
    cases node with
    | file content => rfl
    | directory entries =>
      rw [List.cons_append, find?, find?]
      cases lookup name entries with
      | none => rfl
      | some below => exact ih

theorem lookup_mem (found : lookup name entries = some node) : (name, node) ∈ entries := by
  induction entries with
  | nil => cases found
  | cons entry rest ih =>
    obtain ⟨key, own⟩ := entry
    unfold lookup at found
    split at found
    · rename_i same
      cases found
      rw [same]
      exact List.mem_cons_self
    · exact List.mem_cons_of_mem _ (ih found)

theorem lookup_of_mem (distinct : (entries.map (·.1)).Nodup) (member : (name, node) ∈ entries) :
    lookup name entries = some node := by
  induction entries with
  | nil => cases member
  | cons entry rest ih =>
    obtain ⟨key, own⟩ := entry
    obtain ⟨new, others⟩ := List.nodup_cons.mp distinct
    unfold lookup
    rcases List.mem_cons.mp member with first | later
    · cases first
      rw [if_pos rfl]
    · have other : key ≠ name := by
        rintro rfl
        exact new (List.mem_map.mpr ⟨_, later, rfl⟩)
      rw [if_neg other]
      exact ih others later

theorem mem_entryPlaces : name :: rest ∈ entryPlaces entries ↔
    ∃ below, (name, below) ∈ entries ∧ (rest = [] ∨ rest ∈ below.places) := by
  induction entries with
  | nil => simp [entryPlaces]
  | cons entry others ih =>
    obtain ⟨key, own⟩ := entry
    rw [entryPlaces, List.mem_append, List.mem_cons, List.mem_map, ih]
    constructor
    · rintro ((here | ⟨parts, member, same⟩) | ⟨below, member, rest⟩)
      · cases here
        exact ⟨own, List.mem_cons_self, .inl rfl⟩
      · cases same
        exact ⟨own, List.mem_cons_self, .inr member⟩
      · exact ⟨below, List.mem_cons_of_mem _ member, rest⟩
    · rintro ⟨below, member, rest⟩
      rcases List.mem_cons.mp member with first | later
      · cases first
        rcases rest with rfl | inside
        · exact .inl (.inl rfl)
        · exact .inl (.inr ⟨_, inside, rfl⟩)
      · exact .inr ⟨below, later, rest⟩

theorem nil_places : [] ∉ node.places := by
  cases node with
  | file content => simp [places]
  | directory entries =>
    rw [places]
    induction entries with
    | nil => simp [entryPlaces]
    | cons entry rest ih => simpa [entryPlaces] using ih

theorem places_of_find (found : node.find? parts = some below) (some : parts ≠ []) :
    parts ∈ node.places := by
  induction parts generalizing node with
  | nil => exact absurd rfl some
  | cons name rest ih =>
    cases node with
    | file content => cases found
    | directory entries =>
      unfold find? at found
      split at found
      · rename_i inner looked
        refine mem_entryPlaces.mpr ⟨inner, lookup_mem looked, ?_⟩
        by_cases last : rest = []
        · exact .inl last
        · exact .inr (ih found last)
      · cases found

-- In every directory the names are distinct, and none of them is a step up.
def Proper (node : Node) : Prop :=
  ∀ place entries, node.find? place = some (.directory entries) →
    (entries.map (·.1)).Nodup ∧ ".." ∉ entries.map (·.1)

theorem proper_file : (file content).Proper := by
  rintro (_ | ⟨name, rest⟩) entries found
  · cases found
  · cases found

theorem proper_entry (proper : (directory entries).Proper)
    (found : lookup name entries = some below) : below.Proper := by
  intro place inner reached
  apply proper (name :: place) inner
  rw [find?, found]
  exact reached

theorem proper_directory (distinct : (entries.map (·.1)).Nodup) (down : ".." ∉ entries.map (·.1))
    (below : ∀ entry ∈ entries, entry.2.Proper) : (directory entries).Proper := by
  rintro (_ | ⟨name, rest⟩) inner found
  · cases found
    exact ⟨distinct, down⟩
  · unfold find? at found
    split at found
    · rename_i node looked
      exact below _ (lookup_mem looked) rest inner found
    · cases found

theorem proper_found (proper : node.Proper) (found : node.find? place = some below) :
    below.Proper := by
  intro inner entries reached
  apply proper (place ++ inner) entries
  rw [find_append, found]
  exact reached

theorem find_of_places (proper : node.Proper) (member : parts ∈ node.places) :
    ∃ below, node.find? parts = some below := by
  induction parts generalizing node with
  | nil => exact absurd member nil_places
  | cons name rest ih =>
    cases node with
    | file content => cases member
    | directory entries =>
      obtain ⟨inner, entry, inside⟩ := mem_entryPlaces.mp member
      have looked := lookup_of_mem (proper [] entries rfl).1 entry
      rw [find?, looked]
      rcases inside with rfl | deeper
      · exact ⟨inner, rfl⟩
      · exact ih (proper_entry proper looked) deeper

theorem find_down (proper : node.Proper) (found : node.find? parts = some below) :
    ".." ∉ parts := by
  induction parts generalizing node with
  | nil => exact List.not_mem_nil
  | cons name rest ih =>
    cases node with
    | file content => cases found
    | directory entries =>
      unfold find? at found
      split at found
      · rename_i inner looked
        have listed : name ∈ entries.map (·.1) := List.mem_map_of_mem (lookup_mem looked)
        rintro (_ | ⟨_, later⟩)
        · exact (proper [] entries rfl).2 listed
        · exact ih (proper_entry proper looked) found later
      · cases found

mutual

theorem places_nodup : (node : Node) → node.Proper → node.places.Nodup
  | .file _, _ => List.nodup_nil
  | .directory entries, proper =>
    entryPlaces_nodup entries (proper [] entries rfl).1 fun _ member =>
      proper_entry proper (lookup_of_mem (proper [] entries rfl).1 member)

theorem entryPlaces_nodup : (entries : List (String × Node)) → (entries.map (·.1)).Nodup →
    (∀ entry ∈ entries, entry.2.Proper) → (entryPlaces entries).Nodup
  | [], _, _ => List.nodup_nil
  | (name, node) :: rest, distinct, proper => by
    obtain ⟨new, others⟩ := List.nodup_cons.mp distinct
    have inner := places_nodup node (proper _ List.mem_cons_self)
    have later := entryPlaces_nodup rest others fun entry member =>
      proper entry (List.mem_cons_of_mem _ member)
    rw [entryPlaces, List.nodup_append, List.nodup_cons]
    refine ⟨⟨?_, inner.map fun _ _ same => (List.cons.inj same).2⟩, later, ?_⟩
    · intro own
      obtain ⟨parts, member, same⟩ := List.mem_map.mp own
      cases same
      exact nil_places member
    · rintro first front _ behind rfl
      have begins : ∃ parts, first = name :: parts := by
        rcases List.mem_cons.mp front with rfl | inside
        · exact ⟨[], rfl⟩
        · obtain ⟨parts, -, rfl⟩ := List.mem_map.mp inside
          exact ⟨parts, rfl⟩
      obtain ⟨parts, rfl⟩ := begins
      obtain ⟨below, member, -⟩ := mem_entryPlaces.mp behind
      exact new (List.mem_map.mpr ⟨_, member, rfl⟩)

end

end Node

namespace Tree

variable {tree : Tree} {root : Path} {node below : Node}

theorem join_join {outer inner : List String} : (root.join outer).join inner = root.join (outer ++ inner) := by
  simp [Path.join]

theorem node_located :
    tree.node path = .ok node ↔
      ∃ place, tree.locate path = .ok place ∧ tree.top.find? place = some node := by
  unfold Tree.node
  cases tree.locate path with
  | error cause => simp [bind, Except.bind]
  | ok place =>
    cases found : tree.top.find? place with
    | none => simp [bind, Except.bind, found, throw, throwThe, MonadExceptOf.throw]
    | some other => simp [bind, Except.bind, found, pure, Except.pure]

theorem walk_down (found : tree.top.find? place = some node) (down : ".." ∉ parts) :
    (parts.foldlM tree.step place).toOption = (node.find? parts).map fun _ => place ++ parts := by
  induction parts generalizing place node with
  | nil => simp [Node.find?, pure, Except.pure, Except.toOption]
  | cons name rest ih =>
    obtain ⟨own, others⟩ := not_or.mp (List.mem_cons.not.mp down)
    rw [List.foldlM_cons]
    cases node with
    | file content => simp [step, found, Node.find?, bind, Except.bind, Except.toOption]
    | directory entries =>
      rw [step, found, Node.find?]
      simp only [if_neg (Ne.symm own)]
      cases looked : Node.lookup name entries with
      | none => rfl
      | some inner =>
        have deeper : tree.top.find? (place ++ [name]) = some inner := by
          rw [Node.find_append, found, Option.bind_some, Node.find?, looked]
          rfl
        have walked := ih deeper others
        rw [List.append_assoc] at walked
        exact walked

theorem locate_join (parts : List String) :
    tree.locate (root.join parts) = tree.locate root >>= fun place => parts.foldlM tree.step place :=
  List.foldlM_append

theorem locate_below (located : tree.locate root = .ok place)
    (found : tree.top.find? place = some node) (inside : node.find? parts = some below)
    (down : ".." ∉ parts) : tree.locate (root.join parts) = .ok (place ++ parts) := by
  have walked := walk_down found down
  rw [inside, Option.map_some] at walked
  rw [locate_join, located]
  change parts.foldlM tree.step place = _
  cases arrived : parts.foldlM tree.step place with
  | error cause => simp [arrived, Except.toOption] at walked
  | ok stop =>
    rw [arrived] at walked
    exact congrArg Except.ok (Option.some.inj walked)

theorem node_below (found : tree.node root = .ok node) (down : ".." ∉ parts) :
    (tree.node (root.join parts)).toOption = node.find? parts := by
  obtain ⟨place, located, reached⟩ := node_located.mp found
  have walked := walk_down reached down
  cases inside : node.find? parts with
  | some below =>
    have there : tree.node (root.join parts) = .ok below := by
      refine node_located.mpr ⟨_, locate_below located reached inside down, ?_⟩
      rw [Node.find_append, reached]
      exact inside
    rw [there]
    rfl
  | none =>
    rw [inside, Option.map_none] at walked
    cases stopped : parts.foldlM tree.step place with
    | ok stop => simp [stopped, Except.toOption] at walked
    | error cause =>
      rw [Tree.node, locate_join, located]
      change ((parts.foldlM tree.step place) >>= _).toOption = none
      rw [stopped]
      rfl

theorem node_proper (proper : tree.top.Proper) (found : tree.node root = .ok node) : node.Proper := by
  obtain ⟨place, -, reached⟩ := node_located.mp found
  exact Node.proper_found proper reached

theorem node_inside (proper : tree.top.Proper) (found : tree.node root = .ok node)
    (inside : node.find? parts = some below) : tree.node (root.join parts) = .ok below := by
  have there := node_below found (Node.find_down (node_proper proper found) inside)
  rw [inside] at there
  cases reached : tree.node (root.join parts) with
  | error cause => simp [reached, Except.toOption] at there
  | ok other =>
    rw [reached] at there
    exact congrArg Except.ok (Option.some.inj there)

end Tree

end EndpointCatalog.Files
