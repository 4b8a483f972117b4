import EndpointCatalog.Json.Basic
import EndpointCatalog.Symbol.Ancestry
import EndpointCatalog.Text.Case

namespace EndpointCatalog.Discovery

open Text (Codes)

def controllerToken : List Char := "controller".toList

def beginsToken (text : List Char) : Bool :=
  (text.take controllerToken.length).map Char.toLower = controllerToken

def cutToken? : List Char → Option (List Char)
  | [] => none
  | c :: rest =>
    if beginsToken (c :: rest) then some ((c :: rest).drop controllerToken.length)
    else (cutToken? rest).map (c :: ·)

def withoutToken? (identifier : String) : Option String :=
  (cutToken? identifier.toList).map String.ofList

structure InvalidControllerName where
  identifier : String
  deriving DecidableEq, Repr

def InvalidControllerName.message (e : InvalidControllerName) : String :=
  "Controller name '" ++ e.identifier ++
    "' must contain 'Controller' plus at least one other character"

def controllerName (identifier : String) : Except InvalidControllerName String :=
  match withoutToken? identifier with
  | some name => if name = "" then .error ⟨identifier⟩ else .ok name
  | none => .error ⟨identifier⟩

open EndpointCatalog.Symbol (Table)

abbrev VerbTable := List (String × String)

def standardVerbs : VerbTable :=
  [("Get", "GET"), ("Post", "POST"), ("Put", "PUT"), ("Patch", "PATCH"), ("Delete", "DELETE"),
    ("Head", "HEAD"), ("Options", "OPTIONS")].flatMap fun (name, verb) =>
      [("Http" ++ name, verb), ("Http" ++ name ++ "Attribute", verb)]

structure UnknownVerb where
  marker : String
  deriving DecidableEq, Repr

def UnknownVerb.message (e : UnknownVerb) : String :=
  "No HTTP verb is known for marker '" ++ e.marker ++ "'"

def verbOfName? (verbs : VerbTable) (name : String) : Option String :=
  ((Source.bound? name verbs).or (Source.bound? (Text.lastName name) verbs)).map Text.upper

def verbOf (table : Table) (verbs : VerbTable) (marker : String) : Except UnknownVerb String :=
  let resolved := table.resolve marker
  match (resolved :: table.ancestorsOf resolved).findSome? (verbOfName? verbs) with
  | some verb => .ok verb
  | none => .error ⟨resolved⟩

open EndpointCatalog.Symbol (Table TypeDecl Method Marker)

structure WellKnown where
  controllerBase : String
  routeMarker : String
  methodMarker : String
  deriving DecidableEq, Repr

def WellKnown.names (known : WellKnown) : List String :=
  [known.controllerBase, known.routeMarker, known.methodMarker]

structure Controller where
  name : Codes
  routePrefix : Option Codes
  deriving DecidableEq, Repr

-- The body of a request comes from callers, never from a scan.
structure Endpoint where
  name : Codes
  verb : Option Codes
  route : Option Codes
  body : Option Json

abbrev Application := List (Controller × List Endpoint)

def endpointCount (application : Application) : Nat := (application.flatMap (·.2)).length

def placeholder : Codes := "[controller]"

-- A word without characters is nowhere.
def replaceAll (word replacement text : Codes) : Codes :=
  match text with
  | [] => []
  | c :: rest =>
    if word ≠ [] ∧ word.isPrefixOf (c :: rest) then
      replacement ++ replaceAll word replacement (rest.drop (word.length - 1))
    else c :: replaceAll word replacement rest
termination_by text.length
decreasing_by
  all_goals simp only [List.length_cons, List.length_drop]
  all_goals omega

def fillPlaceholder (name template : Codes) : Codes := replaceAll placeholder name template

def describeController (table : Table) (known : WellKnown) (type : TypeDecl) :
    Except InvalidControllerName Controller := do
  let name ← controllerName type.name
  let template := (table.findMarker type.markers known.routeMarker).bind table.firstText
  return ⟨name, template.map (fillPlaceholder name)⟩

def isEndpoint (table : Table) (known : WellKnown) (method : Method) : Bool :=
  method.isPublic &&
    ((table.findMarker method.markers known.routeMarker).isSome ||
      (table.findMarker method.markers known.methodMarker).isSome)

def endpointMethods (table : Table) (known : WellKnown) (type : TypeDecl) : List Method :=
  type.methods.filter (isEndpoint table known)

-- The marker of a request method gives the verb and the route, which a route marker replaces only
-- if there is one. A marker without a verb is reported beside the description.
def describeMethod (table : Table) (known : WellKnown) (verbs : VerbTable)
    (defaultVerb : Option String) (method : Method) : Endpoint × Option UnknownVerb :=
  let route := table.findMarker method.markers known.routeMarker
  match table.findMarker method.markers known.methodMarker with
  | none =>
    match route, defaultVerb with
    | some route, some verb =>
      if verb = "" then (⟨method.name, none, none, none⟩, none)
      else (⟨method.name, some (Text.upper verb), table.firstText route, none⟩, none)
    | _, _ => (⟨method.name, none, none, none⟩, none)
  | some marker =>
    let path := match table.firstText marker with
      | none => none
      | some own => some ((route.bind table.firstText).getD own)
    match verbOf table verbs marker.typeName with
    | .ok verb => (⟨method.name, some verb, path, none⟩, none)
    | .error e => (⟨method.name, none, path, none⟩, some e)

end EndpointCatalog.Discovery
