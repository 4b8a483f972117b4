import EndpointCatalog.Discovery.Scan
import EndpointCatalog.Proofs.Ancestry
import EndpointCatalog.Proofs.StarImports
import Mathlib.Data.List.Nodup

namespace EndpointCatalog.Symbol.Table

structure Agrees (table other : Table) : Prop where
  types : ∀ name, other.declared? name = table.declared? name
  aliases : ∀ name, other.alias? name = table.alias? name
  stars : ∀ home, other.starSources home = table.starSources home

namespace Agrees

variable {table other : Table} (agrees : Agrees table other)
include agrees

theorem declares_same (name : String) : other.declares name = table.declares name := by
  rw [declares, declares, agrees.types]

theorem types_same : other.types.Perm table.types := by
  have entries : table.types.Nodup := List.Nodup.of_map _ table.distinct
  have others : other.types.Nodup := List.Nodup.of_map _ other.distinct
  refine (List.perm_ext_iff_of_nodup others entries).mpr ?_
  intro type
  constructor
  · intro member
    have found := declared_of_mem member
    rw [agrees.types] at found
    exact declared_mem found
  · intro member
    have found := declared_of_mem member
    rw [← agrees.types] at found
    exact declared_mem found

theorem prefixHop_same (parts : List String) (count : Nat) :
    other.prefixHop parts count = table.prefixHop parts count := by
  induction count with
  | zero => rfl
  | succ count ih => rw [prefixHop, prefixHop, agrees.aliases, ih]

theorem starHop_same (depth : Nat) (name : String) :
    other.starHop depth name = table.starHop depth name := by
  induction depth generalizing name with
  | zero => rfl
  | succ depth ih =>
    unfold starHop
    simp only [agrees.stars, agrees.aliases, agrees.declares_same, ih]

theorem hop_same (name : String) : other.hop name = table.hop name := by
  unfold hop
  simp only [agrees.aliases, agrees.prefixHop_same, agrees.starHop_same]

theorem resolveFrom_same (left : Nat) (seen : List String) (name : String) :
    other.resolveFrom left seen name = table.resolveFrom left seen name := by
  induction left generalizing seen name with
  | zero => rfl
  | succ left ih =>
    unfold resolveFrom
    simp only [agrees.declares_same, agrees.hop_same, ih]

theorem resolve_same : other.resolve = table.resolve :=
  funext fun name => agrees.resolveFrom_same hopLimit [] name

theorem get_same : other.get? = table.get? := by
  funext name
  rw [get?, get?, agrees.resolve_same, agrees.types]

theorem climb_same (path : Climb table seen type names) : Climb other seen type names := by
  induction path with
  | top rootless => exact .top rootless
  | again next old =>
    rw [← agrees.resolve_same] at old
    exact .again next old
  | leave next new outside =>
    rw [← agrees.types] at outside
    rw [← agrees.resolve_same] at new outside ⊢
    exact .leave next new outside
  | climb next new above rest ih =>
    rw [← agrees.types] at above
    rw [← agrees.resolve_same] at new above ih ⊢
    exact .climb next new above ih

-- The bounds of the two walks may differ; neither is ever reached.
theorem ancestors_same : other.ancestors = table.ancestors := by
  funext type
  exact climb_unique (ancestors_climb other type) (agrees.climb_same (ancestors_climb table type))

theorem ancestorsOf_same : other.ancestorsOf = table.ancestorsOf := by
  funext name
  rw [ancestorsOf, ancestorsOf, agrees.get_same, agrees.ancestors_same]

theorem inherits_same : other.inherits = table.inherits := by
  funext base type
  rw [inherits, inherits, agrees.ancestors_same, agrees.resolve_same]

theorem inheritsFrom_same : other.inheritsFrom = table.inheritsFrom := by
  funext base name
  rw [inheritsFrom, inheritsFrom, agrees.ancestorsOf_same, agrees.resolve_same]

theorem isMarkerOf_same : other.isMarkerOf = table.isMarkerOf := by
  funext base name
  rw [isMarkerOf, isMarkerOf, agrees.inheritsFrom_same, agrees.resolve_same]

theorem parametersOf_same : other.parametersOf = table.parametersOf := by
  funext name
  unfold parametersOf
  simp only [agrees.get_same, agrees.ancestors_same, agrees.types]

theorem firstArgument_same : other.firstArgument = table.firstArgument := by
  funext marker
  rw [firstArgument, firstArgument, agrees.parametersOf_same]

theorem firstText_same : other.firstText = table.firstText := by
  funext marker
  rw [firstText, firstText, agrees.firstArgument_same]

theorem findMarker_same : other.findMarker = table.findMarker := by
  funext markers base
  rw [findMarker, findMarker, agrees.isMarkerOf_same]

end Agrees

end EndpointCatalog.Symbol.Table

namespace EndpointCatalog.Discovery

open EndpointCatalog.Symbol (Table TypeDecl)
open EndpointCatalog.Symbol.Table (Agrees)

section

variable {table other : Table} (agrees : Agrees table other)
include agrees

theorem verbOf_agrees : verbOf other = verbOf table := by
  funext verbs marker
  rw [verbOf, verbOf, agrees.resolve_same, agrees.ancestorsOf_same]

theorem describeMethod_agrees : describeMethod other = describeMethod table := by
  funext known verbs defaultVerb method
  unfold describeMethod
  rw [agrees.findMarker_same, agrees.firstText_same, verbOf_agrees agrees]

theorem scanController_agrees : scanController other = scanController table := by
  have described : describeController other = describeController table := by
    funext known type
    rw [describeController, describeController, agrees.findMarker_same, agrees.firstText_same]
  have methods : endpointMethods other = endpointMethods table := by
    funext known type
    unfold endpointMethods isEndpoint
    rw [agrees.findMarker_same]
  have scanned : scanMethod other = scanMethod table := by
    funext guide type method
    rw [scanMethod, scanMethod, describeMethod_agrees agrees]
  funext guide type
  rw [scanController, scanController, described, methods, scanned]

theorem controllers_agrees (base : String) :
    (controllers other base).Perm (controllers table base) := by
  unfold controllers
  rw [agrees.inherits_same]
  exact agrees.types_same.filter _

theorem missing_agrees (names : List String) :
    names.filter (fun name => !other.contains name) =
      names.filter fun name => !table.contains name := by
  unfold Table.contains
  rw [agrees.get_same]

theorem scanTable_agrees (guide : Guide) :
    Option.Rel List.Perm (scanTable other guide).1 (scanTable table guide).1 := by
  unfold scanTable
  rw [missing_agrees agrees]
  cases guide.known.names.filter fun name => !table.contains name with
  | nil =>
    dsimp only
    rw [scanController_agrees agrees]
    exact .some (((controllers_agrees agrees _).map _).filterMap _)
  | cons name names => exact .none

theorem scanTable_same (types : other.types = table.types) : scanTable other = scanTable table := by
  funext guide
  have found : controllers other = controllers table := by
    funext base
    rw [controllers, controllers, agrees.inherits_same, types]
  unfold scanTable
  rw [missing_agrees agrees, found, scanController_agrees agrees]

end

-- A scan of one table finds the entries that a scan of the other finds; the entries follow the
-- order of the types.
structure Alike (table other : Table) : Prop extends Agrees table other where
  resolve : other.resolve = table.resolve
  get : other.get? = table.get?
  ancestors : other.ancestors = table.ancestors
  ancestorsOf : other.ancestorsOf = table.ancestorsOf
  inherits : other.inherits = table.inherits
  inheritsFrom : other.inheritsFrom = table.inheritsFrom
  isMarkerOf : other.isMarkerOf = table.isMarkerOf
  parametersOf : other.parametersOf = table.parametersOf
  firstArgument : other.firstArgument = table.firstArgument
  verbOf : verbOf other = verbOf table
  scans : ∀ guide, Option.Rel List.Perm (scanTable other guide).1 (scanTable table guide).1

theorem agrees_alike {table other : Table} (agrees : Agrees table other) : Alike table other where
  toAgrees := agrees
  resolve := agrees.resolve_same
  get := agrees.get_same
  ancestors := agrees.ancestors_same
  ancestorsOf := agrees.ancestorsOf_same
  inherits := agrees.inherits_same
  inheritsFrom := agrees.inheritsFrom_same
  isMarkerOf := agrees.isMarkerOf_same
  parametersOf := agrees.parametersOf_same
  firstArgument := agrees.firstArgument_same
  verbOf := verbOf_agrees agrees
  scans := scanTable_agrees agrees

end EndpointCatalog.Discovery
