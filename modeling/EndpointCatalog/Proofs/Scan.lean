import EndpointCatalog.Discovery.Scan
import EndpointCatalog.Proofs.ControllerName
import EndpointCatalog.Proofs.Markers
import Mathlib.Data.List.Forall2

namespace EndpointCatalog.Discovery

open EndpointCatalog.Symbol (Table TypeDecl Method Marker)

variable {table : Table} {known : WellKnown} {guide : Guide}

-- A marker counts when its type is the wanted one or lies any number of steps below it.
def Marks (table : Table) (base : String) (marker : Marker) : Prop :=
  table.resolve marker.typeName = table.resolve base ∨
    table.Reaches (table.resolve marker.typeName) (table.resolve base)

structure Routable (table : Table) (known : WellKnown) (method : Method) : Prop where
  isOpen : ∀ rest, method.name.toList ≠ '_' :: rest
  marked : ∃ marker ∈ method.markers,
    Marks table known.routeMarker marker ∨ Marks table known.methodMarker marker

structure Controls (table : Table) (known : WellKnown) (type : TypeDecl) : Prop where
  other : type.qualname ≠ table.resolve known.controllerBase
  below : table.Reaches type.qualname (table.resolve known.controllerBase)
  named : Named type.name

open Classical in
noncomputable def routableMethods (table : Table) (known : WellKnown) (type : TypeDecl) :
    List Method :=
  type.methods.filter (Routable table known)

open Classical in
noncomputable def controllerTypes (table : Table) (known : WellKnown) : List TypeDecl :=
  table.types.filter (Controls table known)

theorem findMarker_marks :
    (table.findMarker markers base).isSome = true ↔
      ∃ marker ∈ markers, Marks table base marker := by
  simp only [Table.findMarker, List.find?_isSome, Table.isMarkerOf_reaches, Marks]

theorem isPublic_open {method : Method} :
    method.isPublic = true ↔ ∀ rest, method.name.toList ≠ '_' :: rest := by
  unfold Method.isPublic
  rw [decide_eq_true_iff]
  cases letters : method.name.toList with
  | nil => simp
  | cons first rest =>
    constructor
    · intro other tail same
      cases same
      exact other rfl
    · intro other same
      cases same
      exact other rest rfl

theorem isEndpoint_routable :
    isEndpoint table known method = true ↔ Routable table known method := by
  unfold isEndpoint
  rw [Bool.and_eq_true, Bool.or_eq_true, isPublic_open, findMarker_marks, findMarker_marks]
  constructor
  · rintro ⟨isOpen, ⟨marker, member, marks⟩ | ⟨marker, member, marks⟩⟩
    · exact ⟨isOpen, marker, member, .inl marks⟩
    · exact ⟨isOpen, marker, member, .inr marks⟩
  · rintro ⟨isOpen, marker, member, marks | marks⟩
    · exact ⟨isOpen, .inl ⟨marker, member, marks⟩⟩
    · exact ⟨isOpen, .inr ⟨marker, member, marks⟩⟩

open Classical in
theorem endpointMethods_routable (type : TypeDecl) :
    endpointMethods table known type = routableMethods table known type := by
  unfold endpointMethods routableMethods
  apply List.filter_congr
  intro method _
  rw [← Bool.coe_iff_coe, isEndpoint_routable, decide_eq_true_iff]

theorem describeController_named {type : TypeDecl} :
    (∃ controller, describeController table known type = .ok controller) ↔ Named type.name := by
  rw [← controllerName_named]
  unfold describeController
  cases named : controllerName type.name with
  | error e => simp [bind, Except.bind]
  | ok name => simp [bind, Except.bind, pure, Except.pure]

theorem describeMethod_name (verbs : VerbTable) (defaultVerb : Option String) (method : Method) :
    (describeMethod table known verbs defaultVerb method).1.name = method.name := by
  unfold describeMethod
  cases table.findMarker method.markers known.methodMarker with
  | none =>
    cases table.findMarker method.markers known.routeMarker with
    | none => rfl
    | some route =>
      cases defaultVerb with
      | none => rfl
      | some verb => by_cases empty : verb = "" <;> simp [empty]
  | some marker =>
    cases verb : verbOf table verbs marker.typeName <;> simp [verb]

structure Describes (table : Table) (guide : Guide) (type : TypeDecl)
    (entry : Controller × List Endpoint) : Prop where
  controller : describeController table guide.known type = .ok entry.1
  endpoints : entry.2 = (routableMethods table guide.known type).map fun method =>
    (describeMethod table guide.known guide.verbs guide.defaultVerb method).1
  names : entry.2.map (·.name) =
    (routableMethods table guide.known type).map fun method => Text.codes method.name

theorem scanController_describes {type : TypeDecl}
    (described : describeController table guide.known type = .ok controller) :
    ∃ endpoints, (scanController table guide type).1 = some (controller, endpoints) ∧
      Describes table guide type (controller, endpoints) := by
  have scanned : (scanController table guide type).1 =
      some (controller, (routableMethods table guide.known type).map fun method =>
        (describeMethod table guide.known guide.verbs guide.defaultVerb method).1) := by
    unfold scanController
    rw [described, endpointMethods_routable]
    simp [scanMethod]
  refine ⟨_, scanned, described, rfl, ?_⟩
  simp [Function.comp_def, describeMethod_name]

theorem scanController_skips {type : TypeDecl}
    (refused : describeController table guide.known type = .error e) :
    (scanController table guide type).1 = none := by
  unfold scanController
  rw [refused]

open Classical in
theorem scanned_describes (types : List TypeDecl) :
    List.Forall₂ (Describes table guide) (types.filter fun type => Named type.name)
      ((types.map (scanController table guide)).filterMap (·.1)) := by
  induction types with
  | nil => exact .nil
  | cons type types ih =>
    cases described : describeController table guide.known type with
    | error e =>
      have unnamed : ¬ Named type.name := by
        intro named
        obtain ⟨controller, accepted⟩ :
            ∃ controller, describeController table guide.known type = .ok controller :=
          describeController_named.mpr named
        rw [described] at accepted
        cases accepted
      simpa [unnamed, scanController_skips described] using ih
    | ok controller =>
      have named : Named type.name := describeController_named.mp ⟨controller, described⟩
      obtain ⟨endpoints, scanned, describes⟩ := scanController_describes described
      simpa [named, scanned] using List.Forall₂.cons describes ih

open Classical in
theorem controllers_named :
    ((controllers table known.controllerBase).filter fun type => Named type.name) =
      controllerTypes table known := by
  unfold controllers controllerTypes
  rw [List.filter_filter]
  apply List.filter_congr
  intro type member
  have declared := Table.declared_of_mem member
  rw [← Bool.coe_iff_coe, Bool.and_eq_true, decide_eq_true_iff, decide_eq_true_iff,
    Table.inherits_reaches declared]
  constructor
  · rintro ⟨named, other, below⟩
    exact ⟨other.symm, below, named⟩
  · rintro ⟨other, below, named⟩
    exact ⟨named, other.symm, below⟩

theorem missing_undeclared :
    known.names.filter (fun name => !table.contains name) = [] ↔
      ¬ ∃ name ∈ known.names, table.get? name = none := by
  rw [List.filter_eq_nil_iff]
  constructor
  · rintro nothing ⟨name, member, undeclared⟩
    exact nothing name member (by simp [Table.contains, undeclared])
  · intro declared name member missing
    refine declared ⟨name, member, ?_⟩
    simpa [Table.contains] using missing

-- Every table has an outcome: the refused names and the unknown markers on the way end nothing.
theorem scanTable_exact (table : Table) (guide : Guide) :
    ((scanTable table guide).1 = none ↔
      ∃ name ∈ guide.known.names, table.get? name = none) ∧
    ∀ application, (scanTable table guide).1 = some application →
      ((controllerTypes table guide.known).map (·.qualname)).Nodup ∧
      List.Forall₂ (Describes table guide) (controllerTypes table guide.known) application := by
  unfold scanTable
  cases missing : guide.known.names.filter fun name => !table.contains name with
  | nil =>
    have declared := missing_undeclared.mp missing
    refine ⟨by simp [declared], ?_⟩
    intro application scanned
    cases scanned
    refine ⟨table.distinct.sublist (List.filter_sublist.map _), ?_⟩
    rw [← controllers_named]
    exact scanned_describes _
  | cons name names =>
    have undeclared : ∃ name ∈ guide.known.names, table.get? name = none := by
      by_contra declared
      rw [missing_undeclared.mpr declared] at missing
      cases missing
    refine ⟨by simp [undeclared], ?_⟩
    intro application scanned
    cases scanned

def routeUse : Marker := ⟨"mvc.Route", [], [], 0⟩

def sampleGuide : Guide := ⟨⟨"mvc.Base", "mvc.Route", "mvc.Verb"⟩, [], none⟩

def sampleTable : Table :=
  { Table.empty with
    types :=
      [Table.bareType "mvc.Base" [], Table.bareType "mvc.Route" [], Table.bareType "mvc.Verb" [],
        { Table.bareType "app.UsersController" ["web.Base"] with
          methods := [⟨"list", [routeUse], 0, false⟩, ⟨"_hidden", [routeUse], 0, false⟩,
            ⟨"plain", [], 0, false⟩] },
        Table.bareType "app.Controller" ["mvc.Base"],
        Table.bareType "app.AController" ["app.BController"],
        Table.bareType "app.BController" ["app.AController"]]
    aliases := [("web.Base", "mvc.Base")]
    distinct := by decide }

theorem sampleTable_scan :
    (scanTable sampleTable sampleGuide).1 =
      some [(⟨"Users", none⟩, [⟨"list", none, none, none⟩])] ∧
    List.Forall₂ (Describes sampleTable sampleGuide)
      (controllerTypes sampleTable sampleGuide.known)
      [(⟨"Users", none⟩, [⟨"list", none, none, none⟩])] :=
  ⟨rfl, ((scanTable_exact sampleTable sampleGuide).2 _ rfl).2⟩

end EndpointCatalog.Discovery
