import EndpointCatalog.Proofs.Markers
import EndpointCatalog.Proofs.ScanLog
import Mathlib

namespace EndpointCatalog.Discovery

open EndpointCatalog.Symbol (Table Method Marker)

variable {table : Table} {guide : Guide} {method : Method}

def OfKind (table : Table) (kind : String) (marker : Marker) : Prop :=
  table.resolve marker.typeName = table.resolve kind ∨
    table.Reaches (table.resolve marker.typeName) (table.resolve kind)

inductive FirstOfKind (table : Table) (kind : String) : List Marker → Option Marker → Prop where
  | none (plain : ∀ marker ∈ markers, ¬ OfKind table kind marker) :
      FirstOfKind table kind markers none
  | some (plain : ∀ marker ∈ before, ¬ OfKind table kind marker)
      (own : OfKind table kind marker) :
      FirstOfKind table kind (before ++ marker :: behind) (some marker)

theorem findMarker_first :
    FirstOfKind table kind markers found ↔ table.findMarker markers kind = found := by
  have kinds : ∀ marker : Marker,
      table.isMarkerOf kind marker.typeName = true ↔ OfKind table kind marker :=
    fun _ => Table.isMarkerOf_reaches
  constructor
  · intro first
    cases first with
    | none plain =>
      refine List.find?_eq_none.mpr fun marker member => ?_
      rw [kinds]
      exact plain marker member
    | @some before marker behind plain own =>
      refine List.find?_eq_some_iff_append.mpr ⟨(kinds marker).mpr own, before, behind, rfl, ?_⟩
      intro other member
      have unlike := plain other member
      rw [← kinds] at unlike
      simpa using unlike
  · intro search
    cases found with
    | none =>
      refine .none fun marker member => ?_
      rw [← kinds]
      exact List.find?_eq_none.mp search marker member
    | some marker =>
      obtain ⟨own, before, behind, rfl, plain⟩ := List.find?_eq_some_iff_append.mp search
      refine .some (fun other member => ?_) ((kinds marker).mp own)
      rw [← kinds]
      simpa using plain other member

-- Markers of other kinds do not count, wherever they stand.
theorem findMarker_among {before added behind : List Marker}
    (plain : ∀ marker ∈ added, ¬ OfKind table kind marker) :
    table.findMarker (before ++ added ++ behind) kind =
      table.findMarker (before ++ behind) kind := by
  have none : table.findMarker added kind = none := findMarker_first.mp (.none plain)
  unfold Table.findMarker at none ⊢
  rw [List.find?_append, List.find?_append, none, Option.or_none, List.find?_append]

-- The route that a marker of a request method gives, with a route marker or without.
inductive RouteGiven (table : Table) (marker : Marker) : Option Marker → Option Text.Codes → Prop where
  | replaced (own : table.firstText marker = some text)
      (other : table.firstText route = some template) :
      RouteGiven table marker (some route) (some template)
  | kept (own : table.firstText marker = some text)
      (silent : ∀ other, route = some other → table.firstText other = none) :
      RouteGiven table marker route (some text)
  | unset (silent : table.firstText marker = none) : RouteGiven table marker route none

-- What comes of describing a method of a given name, from the first marker of each kind.
inductive Described (table : Table) (guide : Guide) (name : String) :
    Option Marker → Option Marker → Option (List String) →
    Except UnknownVerb (Endpoint × Option (List String)) → Prop where
  | unmarked (idle : route = none ∨ guide.defaultVerb = none ∨ guide.defaultVerb = some "") :
      Described table guide name none route log (.ok (⟨name, none, none, none⟩, log))
  | standard (given : guide.defaultVerb = some verb) (written : verb ≠ "") :
      Described table guide name none (some route) log
        (.ok (⟨name, some (Text.upper verb), table.firstText route, none⟩, log))
  | known (found : verbOf table guide.verbs marker.typeName = .ok verb)
      (given : RouteGiven table marker route path) :
      Described table guide name (some marker) route log
        (.ok (⟨name, some verb, path, none⟩, log))
  | noted (unknown : ∀ verb, verbOf table guide.verbs marker.typeName ≠ .ok verb)
      (given : RouteGiven table marker route path) :
      Described table guide name (some marker) route (some lines)
        (.ok (⟨name, none, path, none⟩, some (lines ++
          ["Unknown HTTP method marker " ++ table.resolve marker.typeName ++ " on " ++ name])))
  | refused (unknown : ∀ verb, verbOf table guide.verbs marker.typeName ≠ .ok verb) :
      Described table guide name (some marker) route none
        (.error ⟨table.resolve marker.typeName⟩)

theorem route_given : RouteGiven table marker route
    (match table.firstText marker with
      | none => none
      | some own => some ((route.bind table.firstText).getD own)) := by
  cases own : table.firstText marker with
  | none => exact .unset own
  | some text =>
    cases route with
    | none => exact .kept own nofun
    | some other =>
      cases replaced : table.firstText other with
      | none =>
        simp only [Option.bind_some, replaced, Option.getD_none]
        refine .kept own ?_
        rintro _ ⟨⟩
        exact replaced
      | some template =>
        simp only [Option.bind_some, replaced, Option.getD_some]
        exact .replaced own replaced

theorem route_unique (given : RouteGiven table marker route path)
    (again : RouteGiven table marker route other) : path = other := by
  cases given with
  | replaced own replaced =>
    cases again with
    | replaced _ same =>
      rw [replaced] at same
      exact same
    | kept _ silent =>
      rw [silent _ rfl] at replaced
      cases replaced
    | unset silent =>
      rw [silent] at own
      cases own
  | kept own silent =>
    cases again with
    | replaced _ replaced =>
      rw [silent _ rfl] at replaced
      cases replaced
    | kept same _ =>
      rw [own] at same
      exact same
    | unset silent =>
      rw [silent] at own
      cases own
  | unset silent =>
    cases again with
    | unset _ => rfl
    | replaced own _ | kept own _ =>
      rw [silent] at own
      cases own

theorem describeInto_described (http route : Option Marker) (log : Option (List String))
    (marked : table.findMarker method.markers guide.known.methodMarker = http)
    (routed : table.findMarker method.markers guide.known.routeMarker = route) :
    Described table guide method.name http route log (describeInto table guide log method) := by
  unfold describeInto describeMethod
  rw [marked, routed]
  cases http with
  | none =>
    cases route with
    | none => exact .unmarked (.inl rfl)
    | some route =>
      cases given : guide.defaultVerb with
      | none => exact .unmarked (.inr (.inl given))
      | some verb =>
        by_cases empty : verb = ""
        · simp only [if_pos empty]
          exact .unmarked (.inr (.inr (by rw [given, empty])))
        · simp only [if_neg empty]
          exact .standard given empty
  | some marker =>
    cases found : verbOf table guide.verbs marker.typeName with
    | ok verb =>
      simp only [found]
      exact .known found route_given
    | error e =>
      have unknown : ∀ verb, verbOf table guide.verbs marker.typeName ≠ .ok verb := by
        simp [found]
      obtain rfl : e = ⟨table.resolve marker.typeName⟩ := by
        rw [← verbOf_error found]
      simp only [found]
      cases log with
      | none => exact .refused unknown
      | some lines => exact .noted unknown route_given

theorem described_unique (one : Described table guide name http route log outcome)
    (another : Described table guide name http route log other) : outcome = other := by
  cases one with
  | unmarked idle =>
    cases another with
    | unmarked _ => rfl
    | standard given written => simp [given, written] at idle
  | standard given written =>
    cases another with
    | unmarked idle => simp [given, written] at idle
    | standard same _ =>
      rw [given] at same
      cases same
      rfl
  | known found given =>
    cases another with
    | known same again =>
      rw [found] at same
      cases same
      rw [route_unique given again]
    | noted unknown _ | refused unknown => exact absurd found (unknown _)
  | noted unknown given =>
    cases another with
    | known found _ => exact absurd found (unknown _)
    | noted _ again => rw [route_unique given again]
  | refused unknown =>
    cases another with
    | known found _ => exact absurd found (unknown _)
    | refused _ => rfl

theorem describeInto_same {other : Method} (name : other.name = method.name)
    (marked : table.findMarker other.markers guide.known.methodMarker =
      table.findMarker method.markers guide.known.methodMarker)
    (routed : table.findMarker other.markers guide.known.routeMarker =
      table.findMarker method.markers guide.known.routeMarker) (log : Option (List String)) :
    describeInto table guide log other = describeInto table guide log method := by
  simp only [describeInto, describeMethod, name, marked, routed]

-- However a method orders its markers and whatever else is among them, the same first ones have the
-- same outcome.
theorem describeInto_exact
    (marked : FirstOfKind table guide.known.methodMarker method.markers http)
    (routed : FirstOfKind table guide.known.routeMarker method.markers route) :
    (∀ log outcome, describeInto table guide log method = outcome ↔
      Described table guide method.name http route log outcome) ∧
    (∀ (other : Method) log, other.name = method.name →
      FirstOfKind table guide.known.methodMarker other.markers http →
      FirstOfKind table guide.known.routeMarker other.markers route →
      describeInto table guide log other = describeInto table guide log method) ∧
    ∀ before added behind log, method.markers = before ++ behind →
      (∀ marker ∈ added, ¬ OfKind table guide.known.methodMarker marker ∧
        ¬ OfKind table guide.known.routeMarker marker) →
      describeInto table guide log { method with markers := before ++ added ++ behind } =
        describeInto table guide log method := by
  rw [findMarker_first] at marked routed
  refine ⟨?_, ?_, ?_⟩
  · intro log outcome
    have own := describeInto_described http route log marked routed
    constructor
    · rintro rfl
      exact own
    · exact described_unique own
  · intro other log name marked' routed'
    rw [findMarker_first, ← marked] at marked'
    rw [findMarker_first, ← routed] at routed'
    exact describeInto_same name marked' routed' log
  · intro before added behind log parts plain
    refine describeInto_same ?_ ?_ ?_ log
    · rfl
    · rw [parts]
      exact findMarker_among fun marker member => (plain marker member).1
    · rw [parts]
      exact findMarker_among fun marker member => (plain marker member).2

-- A scan describes each method with its log, and so no marker ends it.
theorem noteMethod_describes (type : Symbol.TypeDecl) (log : List String) (method : Method) :
    describeInto table guide
      (some (log ++ ["Found method " ++ type.qualname ++ "." ++ method.name])) method =
      .ok ((noteMethod table guide type log method).1,
        some (noteMethod table guide type log method).2) := by
  unfold describeInto noteMethod
  cases described : describeMethod table guide.known guide.verbs guide.defaultVerb method with
  | mk endpoint unknown => cases unknown <;> rfl

def mixedKinds : Table :=
  { Table.empty with
    types :=
      [Table.bareType "mvc.Verb" [], Table.bareType "mvc.Route" ["mvc.Verb"],
        Table.bareType "app.Cached" []]
    distinct := by decide }

def mixedUse : Marker := ⟨"mvc.Route", [.value (.str "all")], [], 0⟩

def mixedMethod : Method :=
  ⟨"list", [⟨"app.Cached", [], [], 0⟩, mixedUse, ⟨"mvc.Verb", [], [], 0⟩], 0, false⟩

theorem mixedMethod_described :
    FirstOfKind mixedKinds sampleGuide.known.methodMarker mixedMethod.markers (some mixedUse) ∧
    FirstOfKind mixedKinds sampleGuide.known.routeMarker mixedMethod.markers (some mixedUse) ∧
    describeInto mixedKinds sampleGuide none mixedMethod = .error ⟨"mvc.Route"⟩ ∧
    describeInto mixedKinds sampleGuide (some []) mixedMethod =
      .ok (⟨"list", none, some "all", none⟩,
        some ["Unknown HTTP method marker mvc.Route on list"]) ∧
    describeInto mixedKinds sampleGuide none { mixedMethod with markers := [mixedUse] } =
      .error ⟨"mvc.Route"⟩ := by
  have marked : FirstOfKind mixedKinds sampleGuide.known.methodMarker mixedMethod.markers
      (some mixedUse) := findMarker_first.mpr rfl
  have routed : FirstOfKind mixedKinds sampleGuide.known.routeMarker mixedMethod.markers
      (some mixedUse) := findMarker_first.mpr rfl
  have refused : verbOf mixedKinds sampleGuide.verbs mixedUse.typeName = .error ⟨"mvc.Route"⟩ := rfl
  have unknown : ∀ verb, verbOf mixedKinds sampleGuide.verbs mixedUse.typeName ≠ .ok verb := by
    simp [refused]
  have own : mixedKinds.firstText mixedUse = some "all" := rfl
  obtain ⟨exactly, same, -⟩ := describeInto_exact marked routed
  have failed : describeInto mixedKinds sampleGuide none mixedMethod = .error ⟨"mvc.Route"⟩ :=
    (exactly none _).mpr (.refused unknown)
  refine ⟨marked, routed, failed, ?_, ?_⟩
  · exact (exactly (some []) _).mpr (.noted unknown (.replaced own own))
  · rw [← failed]
    exact same _ none rfl (findMarker_first.mpr rfl) (findMarker_first.mpr rfl)

end EndpointCatalog.Discovery
