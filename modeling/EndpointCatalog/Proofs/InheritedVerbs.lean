import EndpointCatalog.Discovery.Application
import EndpointCatalog.Proofs.Settled

namespace EndpointCatalog.Symbol.Table

open Text (components)

-- Resolving what a name has been resolved to changes nothing.
def Stable (table : Table) : Prop :=
  ∀ name, table.resolve (table.resolve name) = table.resolve name

variable {table : Table}

theorem stable_bare (unaliased : table.aliases = []) (unstarred : table.stars = []) :
    table.Stable := by
  have unbound : ∀ name, table.alias? name = none := fun name => by rw [alias?, unaliased]; rfl
  have lone : ∀ home, table.starSources home = [] := fun home => by
    rw [starSources, unstarred]
    rfl
  have stuck : ∀ name, table.hop name = none := by
    intro name
    have outer : table.prefixHop (components name) ((components name).length - 1) = none :=
      prefixHop_none.mpr fun _ _ _ => unbound _
    have starred : table.starHop hopLimit name = none := by simp [hopLimit, starHop, lone]
    simp [hop, unbound, outer, starred]
  exact fun name => by rw [resolve_stuck (stuck name), resolve_stuck (stuck name)]

theorem climb_closes (path : Climb table seen type names)
    (closed : ∀ upper, type.base.map table.resolve = some upper → upper ∈ seen) : names = [] := by
  cases path with
  | top | again => rfl
  | leave next new | climb next new =>
    have known := closed _ (by rw [next, Option.map_some])
    exact absurd known new

-- Two walks from one type, one of which has also seen the start of a longer walk. Only that name may
-- set them apart, and what is above it the other walk has seen as well.
theorem climb_apart (wide : Climb table wider type names) (narrow : Climb table seen type others)
    (more : ∀ name, name ∈ wider ↔ name ∈ seen ∨ name = start)
    (closed : ∀ upper, table.Above start upper → upper ∈ seen) :
    others = names ∨ others = names ++ [start] := by
  induction wide generalizing seen others with
  | top rootless => cases narrow <;> simp_all
  | @again base type _ next old =>
    cases narrow with
    | top rootless => simp [next] at rootless
    | again => exact .inl rfl
    | leave next' new =>
      rw [next] at next'
      cases next'
      have back := ((more _).mp old).resolve_left new
      exact .inr (by rw [back, List.nil_append])
    | @climb _ _ above _ _ next' new found rest =>
      rw [next] at next'
      cases next'
      have back := ((more _).mp old).resolve_left new
      rw [back] at found rest ⊢
      have nothing := climb_closes rest fun upper step => by
        have higher : table.Above start upper := by rw [Above, above?, found, Option.bind_some, step]
        exact List.mem_cons_of_mem _ (closed upper higher)
      exact .inr (by rw [nothing, List.nil_append])
  | leave next new outside =>
    have fresh := fun old => new ((more _).mpr (.inl old))
    cases narrow <;> simp_all
  | climb next new found rest ih =>
    have fresh := fun old => new ((more _).mpr (.inl old))
    cases narrow with
    | climb next' new' found' rest' =>
      rw [next] at next'
      cases next'
      rw [found] at found'
      cases found'
      have grown := ih rest' (by simp [more, or_assoc])
        fun upper step => List.mem_cons_of_mem _ (closed upper step)
      rcases grown with same | behind
      · exact .inl (by rw [same])
      · exact .inr (by rw [behind, List.cons_append])
    | _ => simp_all

-- The walk from the base of a type against what the walk from the type passes behind that base.
theorem ancestors_base (stable : table.Stable) (next : type.base = some base)
    (other : table.resolve base ≠ type.qualname)
    (declared : table.declared? type.qualname = some type) :
    ∃ rest, table.ancestors type = table.resolve base :: rest ∧
      (table.ancestorsOf (table.resolve base) = rest ∨
        table.ancestorsOf (table.resolve base) = rest ++ [type.qualname]) := by
  have path := ancestors_climb table type
  generalize table.ancestors type = names at path
  cases path with
  | top rootless => simp [next] at rootless
  | again next' old =>
    rw [next] at next'
    cases next'
    exact absurd (List.mem_singleton.mp old) other
  | leave next' new outside =>
    rw [next] at next'
    cases next'
    have nothing : table.get? (table.resolve base) = none := by rw [get?, stable, outside]
    exact ⟨[], rfl, .inl (by simp [ancestorsOf, nothing])⟩
  | @climb _ _ above rest _ next' new found onward =>
    rw [next] at next'
    cases next'
    have get : table.get? (table.resolve base) = some above := by rw [get?, stable, found]
    have narrow := ancestors_climb table above
    rw [declared_qualname found] at narrow
    refine ⟨rest, rfl, ?_⟩
    rw [ancestorsOf_found get]
    apply climb_apart onward narrow
    · simp
    · intro upper step
      rw [above_declared declared, next] at step
      cases step
      exact List.mem_cons_self

end EndpointCatalog.Symbol.Table

namespace EndpointCatalog.Discovery

open EndpointCatalog.Symbol (Table)
open Source (bound?)
open Text (upper lastName)

variable {table : Table} {verbs : VerbTable}

-- The last part of a name counts only when nothing is entered under the whole.
def Listed (verbs : VerbTable) (name verb : String) : Prop :=
  ∃ entry, verb = upper entry ∧
    (bound? name verbs = some entry ∨
      bound? name verbs = none ∧ bound? (lastName name) verbs = some entry)

theorem listed_iff : Listed verbs name verb ↔ verbOfName? verbs name = some verb := by
  unfold Listed verbOfName?
  cases bound? name verbs with
  | none =>
    rw [Option.none_or, Option.map_eq_some_iff]
    simp [eq_comm, and_comm]
  | some entry => simp [eq_comm]

theorem unlisted_iff : (∀ verb, ¬ Listed verbs name verb) ↔ verbOfName? verbs name = none := by
  simp only [listed_iff, Option.eq_none_iff_forall_ne_some, ne_eq]

theorem verbOf_ok : verbOf table verbs marker = .ok verb ↔
    (table.resolve marker :: table.ancestorsOf (table.resolve marker)).findSome?
      (verbOfName? verbs) = some verb := by
  unfold verbOf
  dsimp only
  cases (table.resolve marker :: table.ancestorsOf (table.resolve marker)).findSome?
    (verbOfName? verbs) <;> simp

theorem verbOf_failed : verbOf table verbs marker = .error ⟨table.resolve marker⟩ ↔
    ∀ verb, verbOf table verbs marker ≠ .ok verb := by
  unfold verbOf
  dsimp only
  cases (table.resolve marker :: table.ancestorsOf (table.resolve marker)).findSome?
    (verbOfName? verbs) <;> simp

theorem verbOf_own (listed : Listed verbs (table.resolve marker) verb) :
    verbOf table verbs marker = .ok verb := by
  rw [verbOf_ok, List.findSome?_cons, listed_iff.mp listed]

-- Nothing above a marker leaves the marker to its own name.
theorem verbOf_alone (topmost : table.ancestorsOf (table.resolve marker) = [])
    (unlisted : ∀ verb, ¬ Listed verbs (table.resolve marker) verb) :
    verbOf table verbs marker = .error ⟨table.resolve marker⟩ := by
  rw [verbOf_failed]
  intro verb found
  rw [verbOf_ok, topmost, List.findSome?_cons, unlisted_iff.mp unlisted] at found
  cases found

section

variable (stable : table.Stable)
include stable

theorem ancestorsOf_declared (found : table.get? marker = some type) :
    table.ancestorsOf (table.resolve marker) = table.ancestors type :=
  Table.ancestorsOf_found ((Table.get_resolved (stable marker)).trans found)

theorem verbOf_above (found : table.get? marker = some type) (next : type.base = some base)
    (unlisted : ∀ verb, ¬ Listed verbs type.qualname verb) :
    verbOf table verbs marker = .ok verb ↔ verbOf table verbs base = .ok verb := by
  obtain ⟨declared, same⟩ := Table.get_declared found
  rw [verbOf_ok, verbOf_ok]
  by_cases back : table.resolve base = type.qualname
  · rw [back, same]
  · obtain ⟨rest, passed, above⟩ := Table.ancestors_base stable next back declared
    rw [ancestorsOf_declared stable found, passed, same, List.findSome?_cons,
      unlisted_iff.mp unlisted]
    rcases above with onward | around
    · rw [onward]
    · rw [around, List.findSome?_cons, List.findSome?_cons, List.findSome?_append,
        List.findSome?_singleton, unlisted_iff.mp unlisted, Option.or_none]

theorem ancestorsOf_outside (outside : table.get? marker = none) :
    table.ancestorsOf (table.resolve marker) = [] := by
  have nothing := (Table.get_resolved (stable marker)).trans outside
  simp [Table.ancestorsOf, nothing]

end

-- A name that leads to no declared type is where the recursion ends, and has the verb that the name
-- itself is listed with.
theorem verbOf_inherits (stable : table.Stable) (verbs : VerbTable)
    (found : table.get? marker = some type) :
    (∀ verb, Listed verbs type.qualname verb → verbOf table verbs marker = .ok verb) ∧
    ((∀ verb, ¬ Listed verbs type.qualname verb) →
      (∀ base, type.base = some base →
        (∀ verb, verbOf table verbs marker = .ok verb ↔ verbOf table verbs base = .ok verb) ∧
        (verbOf table verbs marker = .error ⟨type.qualname⟩ ↔
          verbOf table verbs base = .error ⟨table.resolve base⟩)) ∧
      (type.base = none → verbOf table verbs marker = .error ⟨type.qualname⟩)) ∧
    ∀ outer, table.get? outer = none →
      (∀ verb, Listed verbs (table.resolve outer) verb → verbOf table verbs outer = .ok verb) ∧
      ((∀ verb, ¬ Listed verbs (table.resolve outer) verb) →
        verbOf table verbs outer = .error ⟨table.resolve outer⟩) := by
  obtain ⟨declared, same⟩ := Table.get_declared found
  rw [← same]
  refine ⟨fun verb => verbOf_own, fun unlisted => ⟨?_, ?_⟩, ?_⟩
  · intro base next
    rw [same] at unlisted
    have above : ∀ verb, verbOf table verbs marker = .ok verb ↔ verbOf table verbs base = .ok verb :=
      fun _ => verbOf_above stable found next unlisted
    refine ⟨above, ?_⟩
    simp only [verbOf_failed, ne_eq, above]
  · intro rootless
    refine verbOf_alone ?_ unlisted
    have path := Table.ancestors_climb table type
    rw [ancestorsOf_declared stable found]
    exact Table.climb_closes path (by simp [rootless])
  · intro outer outside
    exact ⟨fun verb => verbOf_own, verbOf_alone (ancestorsOf_outside stable outside)⟩

def unlistedMarkers : Table :=
  { Table.empty with
    types :=
      [Table.bareType "web.All" ["web.Some"], Table.bareType "web.Some" ["web.All"],
        Table.bareType "web.Fetch" ["ext.HttpGet"]]
    distinct := by decide }

theorem unlistedMarkers_verbs :
    (∀ verb, verbOf unlistedMarkers standardVerbs "web.Fetch" = .ok verb ↔
      verbOf unlistedMarkers standardVerbs "ext.HttpGet" = .ok verb) ∧
    verbOf unlistedMarkers standardVerbs "ext.HttpGet" = .ok "GET" ∧
    (verbOf unlistedMarkers standardVerbs "web.All" = .error ⟨"web.All"⟩ ↔
      verbOf unlistedMarkers standardVerbs "web.Some" = .error ⟨"web.Some"⟩) ∧
    verbOf unlistedMarkers [("All", "any")] "web.All" = .ok "ANY" := by
  have stable : unlistedMarkers.Stable := Table.stable_bare rfl rfl
  have listed : Listed standardVerbs "ext.HttpGet" "GET" := listed_iff.mpr rfl
  have own : Listed [("All", "any")] "web.All" "ANY" := listed_iff.mpr rfl
  obtain ⟨-, unlistedFetch, outside⟩ := verbOf_inherits stable standardVerbs
    (show unlistedMarkers.get? "web.Fetch" = some (Table.bareType "web.Fetch" ["ext.HttpGet"]) from rfl)
  obtain ⟨-, unlistedAll, -⟩ := verbOf_inherits stable standardVerbs
    (show unlistedMarkers.get? "web.All" = some (Table.bareType "web.All" ["web.Some"]) from rfl)
  obtain ⟨listedAll, -, -⟩ := verbOf_inherits stable [("All", "any")]
    (show unlistedMarkers.get? "web.All" = some (Table.bareType "web.All" ["web.Some"]) from rfl)
  refine ⟨?_, (outside "ext.HttpGet" rfl).1 "GET" listed, ?_, listedAll "ANY" own⟩
  · exact ((unlistedFetch (unlisted_iff.mpr rfl)).1 "ext.HttpGet" rfl).1
  · exact ((unlistedAll (unlisted_iff.mpr rfl)).1 "web.Some" rfl).2

end EndpointCatalog.Discovery
