import EndpointCatalog.Discovery.Scan
import EndpointCatalog.Proofs.Ancestry
import Mathlib.Data.List.Forall2

namespace EndpointCatalog.Symbol.Table

open Source (Argument bound?)

-- A constructor without parameters ends the search as well.
inductive Constructed (table : Table) : List String → List String → Prop where
  | none : Constructed table [] []
  | own (found : table.declared? name = some type) (given : type.parameters = some parameters) :
      Constructed table (name :: above) parameters
  | silent (found : table.declared? name = some type) (unset : type.parameters = none)
      (rest : Constructed table above parameters) : Constructed table (name :: above) parameters
  | outside (missing : table.declared? name = none)
      (rest : Constructed table above parameters) : Constructed table (name :: above) parameters

variable {table : Table}

def ownParameters (table : Table) (name : String) : Option (List String) :=
  (table.declared? name).bind (·.parameters)

theorem constructed_search :
    Constructed table names ((names.findSome? table.ownParameters).getD []) := by
  induction names with
  | nil => exact .none
  | cons name above ih =>
    cases found : table.declared? name with
    | none => simpa [ownParameters, found] using Constructed.outside found ih
    | some type =>
      cases given : type.parameters with
      | none => simpa [ownParameters, found, given] using Constructed.silent found given ih
      | some parameters =>
        have own : Constructed table (name :: above) parameters := .own found given
        simpa [ownParameters, found, given] using own

theorem constructed_unique (one : Constructed table names parameters)
    (another : Constructed table names others) : parameters = others := by
  induction one with
  | none => cases another; rfl
  | own found given => cases another <;> simp_all
  | silent found unset rest ih =>
    cases another with
    | silent _ _ rest => exact ih rest
    | _ => simp_all
  | outside missing rest ih =>
    cases another with
    | outside _ rest => exact ih rest
    | _ => simp_all

theorem parametersOf_search (found : table.get? name = some type) :
    table.parametersOf name =
      ((type.qualname :: table.ancestors type).findSome? table.ownParameters).getD [] := by
  obtain ⟨declared, -⟩ := get_declared found
  have own : table.ownParameters type.qualname = type.parameters := by
    rw [ownParameters, declared, Option.bind_some]
  rw [List.findSome?_cons, own]
  unfold parametersOf
  cases given : type.parameters <;> simp only [found, given] <;> rfl

theorem parametersOf_constructed (found : table.get? name = some type) :
    table.parametersOf name = parameters ↔
      Constructed table (type.qualname :: table.ancestors type) parameters := by
  rw [parametersOf_search found]
  constructor
  · rintro rfl
    exact constructed_search
  · exact constructed_unique constructed_search

theorem firstArgument_placed :
    table.firstArgument ⟨name, value :: args, keywords, line⟩ = some value := rfl

theorem firstArgument_named (parameters : table.parametersOf name = parameter :: others)
    (given : bound? parameter keywords = some value) :
    table.firstArgument ⟨name, [], keywords, line⟩ = some value := by
  have filled : keywords.isEmpty = false := by
    cases keywords with
    | nil => cases given
    | cons => rfl
  simp [firstArgument, filled, parameters, given]

theorem firstArgument_missing
    (unnamed : ∀ parameter ∈ (table.parametersOf name).head?, bound? parameter keywords = none) :
    table.firstArgument ⟨name, [], keywords, line⟩ = none := by
  unfold firstArgument
  cases parameters : table.parametersOf name with
  | nil => simp
  | cons parameter others =>
    rw [parameters] at unnamed
    simp [unnamed parameter rfl]

def Matches (table : Table) (marker other : Marker) : Prop :=
  marker.typeName = other.typeName ∧ table.firstArgument marker = table.firstArgument other

theorem matches_self (marker : Marker) : Matches table marker marker := ⟨rfl, rfl⟩

theorem matches_firstText (same : Matches table marker other) :
    table.firstText marker = table.firstText other := by
  rw [firstText, firstText, same.2]

theorem findMarker_matches (same : List.Forall₂ (Matches table) markers others) :
    Option.Rel (Matches table) (table.findMarker markers kind) (table.findMarker others kind) := by
  induction same with
  | nil => exact .none
  | @cons marker other markers others first rest ih =>
    unfold findMarker at ih ⊢
    rw [List.find?_cons, List.find?_cons, first.1]
    cases table.isMarkerOf kind other.typeName with
    | true => exact .some first
    | false => exact ih

theorem firstText_matches {marker other : Option Marker}
    (same : Option.Rel (Matches table) marker other) :
    marker.bind table.firstText = other.bind table.firstText := by
  cases same with
  | none => rfl
  | some same => exact matches_firstText same

theorem matches_replaced (same : Matches table marker other) (before after : List Marker) :
    List.Forall₂ (Matches table) (before ++ marker :: after) (before ++ other :: after) :=
  List.rel_append (List.forall₂_same.mpr fun kept _ => matches_self kept)
    (.cons same (List.forall₂_same.mpr fun kept _ => matches_self kept))

end EndpointCatalog.Symbol.Table

namespace EndpointCatalog.Discovery

open EndpointCatalog.Symbol (Table TypeDecl Method Marker)
open EndpointCatalog.Symbol.Table
open Source (bound?)

variable {table : Table}

theorem describeController_matches {type other : TypeDecl} (named : type.name = other.name)
    (same : List.Forall₂ (Matches table) type.markers other.markers) :
    describeController table known type = describeController table known other := by
  unfold describeController
  rw [named, firstText_matches (findMarker_matches same)]

theorem describeMethod_matches {method other : Method} (named : method.name = other.name)
    (same : List.Forall₂ (Matches table) method.markers other.markers) :
    describeMethod table known verbs defaultVerb method =
      describeMethod table known verbs defaultVerb other := by
  have found : ∀ kind, Option.Rel (Matches table) (table.findMarker method.markers kind)
      (table.findMarker other.markers kind) := fun _ => findMarker_matches same
  have routed := found known.routeMarker
  have marked := found known.methodMarker
  unfold describeMethod
  rw [named]
  generalize table.findMarker method.markers known.routeMarker = route at routed ⊢
  generalize table.findMarker other.markers known.routeMarker = otherRoute at routed ⊢
  generalize table.findMarker method.markers known.methodMarker = marker at marked ⊢
  generalize table.findMarker other.markers known.methodMarker = otherMarker at marked ⊢
  cases marked with
  | none =>
    cases routed with
    | none => rfl
    | some alike =>
      cases defaultVerb with
      | none => rfl
      | some verb => simp only [matches_firstText alike]
  | some alike =>
    simp only [firstText_matches routed, matches_firstText alike, alike.1]

theorem describeInto_matches {method other : Method} (named : method.name = other.name)
    (same : List.Forall₂ (Matches table) method.markers other.markers) :
    describeInto table guide log method = describeInto table guide log other := by
  unfold describeInto
  rw [describeMethod_matches named same, named]

-- One class or method with a marker given by position, and with the marker given by keyword.
structure Interchangeable (table : Table) (placed named : Marker) : Prop where
  controller : ∀ known (type : TypeDecl) before after,
    describeController table known { type with markers := before ++ placed :: after } =
      describeController table known { type with markers := before ++ named :: after }
  method : ∀ guide log (method : Method) before after,
    describeInto table guide log { method with markers := before ++ placed :: after } =
      describeInto table guide log { method with markers := before ++ named :: after }

theorem matches_interchangeable (same : Matches table placed named) :
    Interchangeable table placed named := by
  refine ⟨?_, ?_⟩
  · intro known type before after
    exact describeController_matches rfl (matches_replaced same before after)
  · intro guide log method before after
    exact describeInto_matches rfl (matches_replaced same before after)

-- What is given under other names than that of the first parameter is not there.
theorem firstArgument_spelled {name : String} (found : table.get? name = some type) :
    (∀ parameters, table.parametersOf name = parameters ↔
      Constructed table (type.qualname :: table.ancestors type) parameters) ∧
    (∀ parameter others value args keywords named line other,
      table.parametersOf name = parameter :: others → bound? parameter named = some value →
      table.firstArgument ⟨name, value :: args, keywords, line⟩ = some value ∧
      table.firstArgument ⟨name, [], named, other⟩ = some value ∧
      Interchangeable table ⟨name, value :: args, keywords, line⟩ ⟨name, [], named, other⟩) ∧
    ∀ named line,
      (table.parametersOf name = [] ∨
        ∃ parameter others, table.parametersOf name = parameter :: others ∧
          bound? parameter named = none) →
      table.firstArgument ⟨name, [], named, line⟩ = none := by
  refine ⟨fun _ => parametersOf_constructed found, ?_, ?_⟩
  · intro parameter others value args keywords named line other parameters given
    have second : table.firstArgument ⟨name, [], named, other⟩ = some value :=
      firstArgument_named parameters given
    exact ⟨firstArgument_placed, second,
      matches_interchangeable ⟨rfl, firstArgument_placed.trans second.symm⟩⟩
  · intro named line unnamed
    apply firstArgument_missing
    rcases unnamed with empty | ⟨parameter, others, parameters, missing⟩
    · simp [empty]
    · simpa [parameters] using missing

def routeMarkers : Table :=
  { Table.empty with
    types :=
      [{ Table.bareType "mvc.Route" ["app.Page"] with parameters := some ["template"] },
        Table.bareType "app.Page" ["web.Route"],
        { Table.bareType "app.Bare" ["app.Page"] with parameters := some [] }]
    aliases := [("web.Route", "mvc.Route")]
    distinct := by decide }

theorem routeMarkers_arguments :
    routeMarkers.parametersOf "app.Page" = ["template"] ∧
    Constructed routeMarkers ["app.Page", "mvc.Route"] ["template"] ∧
    Interchangeable routeMarkers ⟨"app.Page", [.value (.str "all")], [], 3⟩
      ⟨"app.Page", [], [("name", .unknown), ("template", .value (.str "all"))], 4⟩ ∧
    routeMarkers.firstArgument ⟨"app.Bare", [], [("template", .value (.str "all"))], 5⟩ = none := by
  have page : routeMarkers.get? "app.Page" = some (Table.bareType "app.Page" ["web.Route"]) := rfl
  have parameters : routeMarkers.parametersOf "app.Page" = ["template"] := rfl
  obtain ⟨nearest, spelled, -⟩ := firstArgument_spelled page
  obtain ⟨-, -, same⟩ := spelled "template" [] (.value (.str "all")) [] []
    [("name", .unknown), ("template", .value (.str "all"))] 3 4 parameters rfl
  have bare : routeMarkers.get? "app.Bare" =
    some { Table.bareType "app.Bare" ["app.Page"] with parameters := some [] } := rfl
  obtain ⟨-, -, unnamed⟩ := firstArgument_spelled bare
  exact ⟨parameters, (nearest _).mp parameters, same, unnamed _ 5 (.inl rfl)⟩

end EndpointCatalog.Discovery
