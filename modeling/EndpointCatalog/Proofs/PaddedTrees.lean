import EndpointCatalog.Proofs.Visits

namespace EndpointCatalog.Symbol

open Files (Path Tree Node)

def endsAsSource (name : String) : Bool := ".py".toList.isSuffixOf name.toList

-- The full tree may have further directories, unless they are named as a source is.
structure Padded (plain full : Tree) (extra : List (List String)) : Prop where
  here : full.here = plain.here
  plainProper : plain.top.Proper
  fullProper : full.top.Proper
  files : ∀ place content, plain.top.find? place = some (.file content) ↔
    full.top.find? place = some (.file content) ∧ place ∉ extra
  directories : ∀ place entries, plain.top.find? place = some (.directory entries) →
    ∃ others, full.top.find? place = some (.directory others)
  added : ∀ place entries, full.top.find? place = some (.directory entries) →
    (∃ others, plain.top.find? place = some (.directory others)) ∨
      endsAsSource (place.getLastD "") = false
  broken : ∀ place ∈ extra, ∃ content,
    full.top.find? place = some (.file content) ∧ statementsOf? content = none

def leadsInto (tree : Tree) (places : List (List String)) (path : Path) : Bool :=
  match tree.locate path with
  | .ok place => places.contains place
  | .error _ => false

namespace Padded

variable {plain full : Tree} {extra : List (List String)} (padded : Padded plain full extra)
include padded

theorem present (found : plain.top.find? place = some node) :
    ∃ other, full.top.find? place = some other := by
  cases node with
  | file content => exact ⟨_, ((padded.files place content).mp found).1⟩
  | directory entries =>
    obtain ⟨others, there⟩ := padded.directories place entries found
    exact ⟨_, there⟩

theorem step_full (place : List String) (part : String) (next : List String)
    (stepped : plain.step place part = .ok next) : full.step place part = .ok next := by
  unfold Tree.step at stepped
  split at stepped
  · cases stepped
  · cases stepped
  · rename_i entries found
    obtain ⟨others, there⟩ := padded.directories place entries found
    unfold Tree.step
    rw [there]
    dsimp only
    split at stepped
    · rename_i up
      cases stepped
      rw [if_pos up]
    · rename_i down
      rw [if_neg down]
      split at stepped
      · rename_i below looked
        cases stepped
        have inner : plain.top.find? (place ++ [part]) = some below := by
          rw [Node.find_append, found, Option.bind_some, Node.find?, looked]
          rfl
        obtain ⟨other, outer⟩ := padded.present inner
        rw [Node.find_append, there, Option.bind_some, Node.find?] at outer
        cases looked : Node.lookup part others with
        | none => simp [looked] at outer
        | some node => rfl
      · cases stepped

theorem locate_full (located : plain.locate path = .ok place) : full.locate path = .ok place := by
  unfold Tree.locate Tree.start at located ⊢
  rw [padded.here]
  exact Source.foldlM_mono padded.step_full located

theorem present_iff (named : endsAsSource (place.getLastD "") = true) :
    (∃ node, plain.top.find? place = some node) ↔
      (∃ node, full.top.find? place = some node) ∧ place ∉ extra := by
  constructor
  · rintro ⟨node, found⟩
    refine ⟨padded.present found, fun listed => ?_⟩
    cases node with
    | file content => exact ((padded.files place content).mp found).2 listed
    | directory entries =>
      obtain ⟨others, there⟩ := padded.directories place entries found
      obtain ⟨content, file, -⟩ := padded.broken place listed
      rw [there] at file
      cases file
  · rintro ⟨⟨node, found⟩, kept⟩
    cases node with
    | file content => exact ⟨_, (padded.files place content).mpr ⟨found, kept⟩⟩
    | directory entries =>
      rcases padded.added place entries found with ⟨others, there⟩ | other
      · exact ⟨_, there⟩
      · rw [named] at other
        cases other

end Padded

-- A directory that both trees have and that is scanned from.
structure SharedRoot (plain full : Tree) (root : Path) (place : List String)
    (entries others : List (String × Node)) : Prop where
  plainPlace : plain.locate root = .ok place
  fullPlace : full.locate root = .ok place
  plainNode : plain.top.find? place = some (.directory entries)
  fullNode : full.top.find? place = some (.directory others)

namespace SharedRoot

variable {plain full : Tree} {extra : List (List String)} {root : Path} {place : List String}
  {entries others : List (String × Node)} (shared : SharedRoot plain full root place entries others)

theorem of_directory (padded : Padded plain full extra) (directory : plain.isDirectory root = true) :
    ∃ place entries others, SharedRoot plain full root place entries others := by
  unfold Tree.isDirectory at directory
  split at directory
  · rename_i entries found
    obtain ⟨place, located, reached⟩ := Tree.node_located.mp found
    obtain ⟨others, there⟩ := padded.directories place entries reached
    exact ⟨place, entries, others, located, padded.locate_full located, reached, there⟩
  · cases directory

include shared

theorem plainRoot : plain.node root = .ok (.directory entries) :=
  Tree.node_located.mpr ⟨place, shared.plainPlace, shared.plainNode⟩

theorem fullRoot : full.node root = .ok (.directory others) :=
  Tree.node_located.mpr ⟨place, shared.fullPlace, shared.fullNode⟩

theorem plain_below (parts : List String) :
    plain.top.find? (place ++ parts) = (Node.directory entries).find? parts := by
  rw [Node.find_append, shared.plainNode, Option.bind_some]

theorem full_below (parts : List String) :
    full.top.find? (place ++ parts) = (Node.directory others).find? parts := by
  rw [Node.find_append, shared.fullNode, Option.bind_some]

variable (padded : Padded plain full extra)
include padded

theorem leads_below (inside : (Node.directory others).find? parts = some node) :
    leadsInto full extra (root.join parts) = extra.contains (place ++ parts) := by
  have proper := Tree.node_proper padded.fullProper shared.fullRoot
  have located := Tree.locate_below shared.fullPlace shared.fullNode inside
    (Node.find_down proper inside)
  rw [leadsInto, located]

theorem source_iff (below : parts ≠ []) (named : endsAsSource (parts.getLastD "") = true) :
    (∃ node, (Node.directory entries).find? parts = some node) ↔
      (∃ node, (Node.directory others).find? parts = some node) ∧
        leadsInto full extra (root.join parts) = false := by
  have last : (place ++ parts).getLastD "" = parts.getLastD "" := by
    rw [List.getLastD_eq_getLast?, List.getLastD_eq_getLast?, List.getLast?_append_of_ne_nil _ below]
  rw [← last] at named
  rw [← shared.plain_below, padded.present_iff named, shared.full_below]
  refine and_congr_right ?_
  rintro ⟨node, inside⟩
  rw [shared.leads_below padded inside]
  simp

theorem sourcesBelow_kept :
    (sourcesBelow (.directory others)).filter (fun parts => !leadsInto full extra (root.join parts)) =
      sourcesBelow (.directory entries) := by
  have plainProper := Tree.node_proper padded.plainProper shared.plainRoot
  have fullProper := Tree.node_proper padded.fullProper shared.fullRoot
  refine Text.sorted_unique ((sourcesBelow_sorted _).filter _) (sourcesBelow_sorted _)
    ((sourcesBelow_nodup fullProper).filter _) (sourcesBelow_nodup plainProper) ?_
  intro parts
  rw [List.mem_filter, source_found fullProper, source_found plainProper, Bool.not_eq_true',
    and_right_comm]
  refine and_congr_left fun source => (shared.source_iff padded (source_nonempty source) ?_).symm
  exact (Bool.and_eq_true_iff.mp source).1

theorem packageParts_same (marker : leadsInto full extra (root.join ["__init__.py"]) = false) :
    packageParts full root = packageParts plain root := by
  have down : ".." ∉ ["__init__.py"] := by decide
  have marked : full.has (root.join ["__init__.py"]) = plain.has (root.join ["__init__.py"]) := by
    rw [Tree.has, Tree.has, Tree.node_below shared.fullRoot down, Tree.node_below shared.plainRoot down,
      Bool.eq_iff_iff, Option.isSome_iff_exists, Option.isSome_iff_exists,
      shared.source_iff padded (by decide) (by decide)]
    exact (and_iff_left marker).symm
  have called : full.directoryName root = plain.directoryName root := by
    rw [Tree.directoryName, Tree.directoryName, shared.fullPlace, shared.plainPlace]
  rw [packageParts, packageParts, marked, called]

theorem visits_kept (marker : leadsInto full extra (root.join ["__init__.py"]) = false) :
    (visits full root).filter (fun file => !leadsInto full extra file.1) = visits plain root := by
  have same : visitBelow full root = visitBelow plain root := by
    funext parts
    rw [visitBelow, visitBelow, shared.packageParts_same padded marker]
  rw [visits_directory shared.fullRoot, visits_directory shared.plainRoot, List.filter_map, same,
    ← shared.sourcesBelow_kept padded]
  rfl

-- Reading tells the trees apart at extra files only.
theorem read_same (inside : (Node.directory entries).find? parts = some node) :
    full.read (root.join parts) = plain.read (root.join parts) := by
  have here := Tree.node_inside padded.plainProper shared.plainRoot inside
  rw [← shared.plain_below] at inside
  cases node with
  | file content =>
    have there := ((padded.files _ content).mp inside).1
    rw [shared.full_below] at there
    rw [Tree.read, Tree.read, here, Tree.node_inside padded.fullProper shared.fullRoot there]
  | directory inner =>
    obtain ⟨outer, there⟩ := padded.directories _ inner inside
    rw [shared.full_below] at there
    rw [Tree.read, Tree.read, here, Tree.node_inside padded.fullProper shared.fullRoot there]

theorem contribution_same (visit : file ∈ visits plain root) :
    contribution full file = contribution plain file := by
  rw [visits_directory shared.plainRoot] at visit
  obtain ⟨parts, listed, rfl⟩ := List.mem_map.mp visit
  have proper := Tree.node_proper padded.plainProper shared.plainRoot
  obtain ⟨⟨node, inside⟩, -⟩ := (source_found proper).mp listed
  have read : full.read (visitBelow plain root parts).1 = plain.read (visitBelow plain root parts).1 :=
    shared.read_same padded inside
  rw [contribution, contribution, read]

end SharedRoot

theorem contribution_extra (padded : Padded plain full extra)
    (leads : leadsInto full extra file.1 = true) :
    contribution full file = { skipped := [file.1] } := by
  unfold leadsInto at leads
  split at leads
  · rename_i place located
    obtain ⟨content, found, unparsed⟩ := padded.broken place (List.contains_iff_mem.mp leads)
    have node : full.node file.1 = .ok (.file content) :=
      Tree.node_located.mpr ⟨place, located, found⟩
    rw [contribution, Tree.read, node]
    dsimp only
    rw [unparsed]
  · cases leads

end EndpointCatalog.Symbol
