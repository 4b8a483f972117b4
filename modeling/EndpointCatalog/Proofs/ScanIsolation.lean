import EndpointCatalog.Proofs.Isolation
import EndpointCatalog.Proofs.Scan

namespace EndpointCatalog.Discovery

open EndpointCatalog.Symbol (Table TypeDecl Method Marker Record)
open EndpointCatalog.Symbol.Table (Apart Isolated)
open Text (Undotted Below Inside)

variable {table grown : Table} {known : WellKnown} {guide : Guide} {type : TypeDecl}

theorem names_listed (known : WellKnown) :
    known.controllerBase ∈ known.names ∧ known.routeMarker ∈ known.names ∧
      known.methodMarker ∈ known.names := by
  simp [WellKnown.names]

theorem verbOf_same (isolated : Isolated package table grown)
    (outside : ¬ Inside package marker) (verbs : VerbTable) :
    verbOf grown verbs marker = verbOf table verbs marker := by
  have above := isolated.ancestorsOf_same (isolated.resolve_outside outside)
  rw [verbOf, verbOf, isolated.resolve_same outside, above]

theorem chosenText_same (isolated : Isolated package table grown)
    (outside : ∀ marker ∈ markers, ¬ Inside package marker.typeName) (base : String) :
    (table.findMarker markers base).bind grown.firstText =
      (table.findMarker markers base).bind table.firstText := by
  apply Option.bind_congr
  intro marker chosen
  exact isolated.firstText_same (outside marker (List.mem_of_find?_eq_some chosen))

section

variable (isolated : Isolated package table grown)
  (reserved : ∀ name ∈ known.names, ¬ Inside package name)

include isolated reserved

theorem missing_same :
    known.names.filter (fun name => !grown.contains name) =
      known.names.filter fun name => !table.contains name := by
  apply List.filter_congr
  intro name listed
  rw [Table.contains, Table.contains, isolated.get_same (reserved name listed)]

variable (member : type ∈ table.types)
include member

theorem describeController_same :
    describeController grown known type = describeController table known type := by
  have outside : ∀ marker ∈ type.markers, ¬ Inside package marker.typeName := fun _ =>
    isolated.apart.marker_outside member
  have wanted := reserved known.routeMarker (names_listed known).2.1
  rw [describeController, describeController, isolated.findMarker_same wanted outside,
    chosenText_same isolated outside]

variable (owns : method ∈ type.methods)
include owns

theorem methodMarker_same (wanted : base ∈ known.names) :
    grown.findMarker method.markers base = table.findMarker method.markers base :=
  isolated.findMarker_same (reserved base wanted) fun _ =>
    isolated.apart.methodMarker_outside member owns

theorem isEndpoint_same : isEndpoint grown known method = isEndpoint table known method := by
  obtain ⟨-, routed, verbed⟩ := names_listed known
  rw [isEndpoint, isEndpoint, methodMarker_same isolated reserved member owns routed,
    methodMarker_same isolated reserved member owns verbed]

theorem describeMethod_same (verbs : VerbTable) (defaultVerb : Option String) :
    describeMethod grown known verbs defaultVerb method =
      describeMethod table known verbs defaultVerb method := by
  obtain ⟨-, routed, verbed⟩ := names_listed known
  have outside : ∀ marker ∈ method.markers, ¬ Inside package marker.typeName := fun _ =>
    isolated.apart.methodMarker_outside member owns
  have text : ∀ marker ∈ method.markers, grown.firstText marker = table.firstText marker :=
    fun marker present => isolated.firstText_same (outside marker present)
  have override := chosenText_same isolated outside known.routeMarker
  unfold describeMethod
  simp only [methodMarker_same isolated reserved member owns routed,
    methodMarker_same isolated reserved member owns verbed]
  cases chosen : table.findMarker method.markers known.methodMarker with
  | none =>
    cases route : table.findMarker method.markers known.routeMarker with
    | none => rfl
    | some marker =>
      cases defaultVerb with
      | none => rfl
      | some verb => simp only [text marker (List.mem_of_find?_eq_some route)]
  | some marker =>
    have present := List.mem_of_find?_eq_some chosen
    simp only [text marker present, override, verbOf_same isolated (outside marker present)]

end

theorem scanController_same (isolated : Isolated package table grown)
    (reserved : ∀ name ∈ guide.known.names, ¬ Inside package name)
    (member : type ∈ table.types) :
    scanController grown guide type = scanController table guide type := by
  have methods : endpointMethods grown guide.known type = endpointMethods table guide.known type := by
    apply List.filter_congr
    intro method owns
    exact isEndpoint_same isolated reserved member owns
  have scanned : (endpointMethods table guide.known type).map (scanMethod grown guide type) =
      (endpointMethods table guide.known type).map (scanMethod table guide type) := by
    apply List.map_congr_left
    intro method listed
    have owns : method ∈ type.methods := List.mem_of_mem_filter listed
    rw [scanMethod, scanMethod, describeMethod_same isolated reserved member owns]
  rw [scanController, scanController, describeController_same isolated reserved member, methods,
    scanned]

theorem controllers_grown (isolated : Isolated package table grown)
    (outside : ¬ Inside package base) :
    ∃ more, controllers grown base = controllers table base ++ more ∧
      ∀ type ∈ more, Below package type.qualname := by
  obtain ⟨added, types, inside⟩ := isolated.grows.types
  have old : table.types.filter (grown.inherits base) = controllers table base := by
    apply List.filter_congr
    intro type member
    exact isolated.inherits_same member outside
  refine ⟨added.filter (grown.inherits base), ?_, ?_⟩
  · rw [controllers, types, List.filter_append, old]
  · intro type kept
    exact inside type (List.mem_of_mem_filter kept)

def describeAll (table : Table) (guide : Guide) (types : List TypeDecl) :
    Application × List Event :=
  let scanned := types.map (scanController table guide)
  (scanned.filterMap (·.1), scanned.flatMap (·.2))

theorem scanTable_describes
    (declared : guide.known.names.filter (fun name => !table.contains name) = []) :
    scanTable table guide =
      (some (describeAll table guide (controllers table guide.known.controllerBase)).1,
        (describeAll table guide (controllers table guide.known.controllerBase)).2) := by
  rw [scanTable, declared]
  rfl

theorem describeAll_append (table : Table) (guide : Guide) (first second : List TypeDecl) :
    describeAll table guide (first ++ second) =
      ((describeAll table guide first).1 ++ (describeAll table guide second).1,
        (describeAll table guide first).2 ++ (describeAll table guide second).2) := by
  simp [describeAll]

theorem describeAll_same (isolated : Isolated package table grown)
    (reserved : ∀ name ∈ guide.known.names, ¬ Inside package name)
    (old : ∀ type ∈ types, type ∈ table.types) :
    describeAll grown guide types = describeAll table guide types := by
  have each : types.map (scanController grown guide) = types.map (scanController table guide) := by
    apply List.map_congr_left
    intro type listed
    exact scanController_same isolated reserved (old type listed)
  rw [describeAll, describeAll, each]

-- What a scan says about the old controllers stands in front, in its old order.
theorem scan_isolated {records : List Record} (clean : Undotted package)
    (apart : Apart package table) (within : ∀ record ∈ records, record.Within package)
    (reserved : ∀ name ∈ guide.known.names, ¬ Inside package name) :
    ((scanTable (table.recordAll records) guide).1 = none ↔ (scanTable table guide).1 = none) ∧
    ((scanTable table guide).1 = none →
      scanTable (table.recordAll records) guide = scanTable table guide) ∧
    ∀ application events, scanTable table guide = (some application, events) →
      ∃ added, (∀ type ∈ added, Below package type.qualname) ∧
        controllers (table.recordAll records) guide.known.controllerBase =
          controllers table guide.known.controllerBase ++ added ∧
        scanTable (table.recordAll records) guide =
          (some (application ++ (describeAll (table.recordAll records) guide added).1),
            events ++ (describeAll (table.recordAll records) guide added).2) := by
  have isolated : Isolated package table (table.recordAll records) :=
    ⟨clean, apart, Table.recordAll_grows within⟩
  have same := missing_same isolated reserved
  cases missing : guide.known.names.filter fun name => !table.contains name with
  | nil =>
    rw [missing] at same
    have base := reserved guide.known.controllerBase (names_listed guide.known).1
    obtain ⟨added, behind, inside⟩ := controllers_grown isolated base
    have old : ∀ type ∈ controllers table guide.known.controllerBase, type ∈ table.types :=
      fun _ => List.mem_of_mem_filter
    rw [scanTable_describes same, scanTable_describes missing]
    refine ⟨by simp, by simp, ?_⟩
    intro application events scanned
    cases scanned
    refine ⟨added, inside, behind, ?_⟩
    rw [behind, describeAll_append, describeAll_same isolated reserved old]
  | cons name names =>
    rw [scanTable, scanTable, same, missing]
    refine ⟨by simp, by simp, ?_⟩
    intro application events scanned
    cases scanned

def plugin : List Record :=
  [.starred "plug" "app", .aliased "plug.Base" "web.Base",
    .declared (Table.bareType "plug.PluginController" ["plug.Base"])]

theorem plugin_isolated :
    (scanTable (sampleTable.recordAll plugin) sampleGuide).1 =
      some [(⟨"Users", none⟩, [⟨"list", none, none, none⟩]), (⟨"Plugin", none⟩, [])] ∧
    ∃ added, (∀ type ∈ added, Below "plug" type.qualname) ∧
      controllers (sampleTable.recordAll plugin) "mvc.Base" =
        controllers sampleTable "mvc.Base" ++ added := by
  have clean : Undotted "plug" := by decide
  have apart : Apart "plug" sampleTable := by decide
  have within : ∀ record ∈ plugin, record.Within "plug" := by decide
  have reserved : ∀ name ∈ sampleGuide.known.names, ¬ Inside "plug" name := by decide
  obtain ⟨-, -, grown⟩ := scan_isolated clean apart within reserved
  obtain ⟨added, inside, behind, -⟩ := grown _ _ rfl
  exact ⟨rfl, added, inside, behind⟩

end EndpointCatalog.Discovery
