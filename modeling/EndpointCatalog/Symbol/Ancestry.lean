import EndpointCatalog.Symbol.Resolution

namespace EndpointCatalog.Symbol.Table

open Source (Argument)

-- A name that is not declared ends the walk, and so does one that repeats; every other step sees
-- one more declared type, so that the number of types bounds the steps.
def ancestorsFrom (table : Table) : Nat → List String → TypeDecl → List String
  | 0, _, _ => []
  | left + 1, seen, type =>
    match type.base with
    | none => []
    | some base =>
      let name := table.resolve base
      if seen.contains name then []
      else match table.declared? name with
        | none => [name]
        | some above => name :: table.ancestorsFrom left (name :: seen) above

def ancestors (table : Table) (type : TypeDecl) : List String :=
  table.ancestorsFrom (table.types.length + 1) [type.qualname] type

def ancestorsOf (table : Table) (name : String) : List String :=
  match table.get? name with
  | some type => table.ancestors type
  | none => []

-- No type is above itself.
def inherits (table : Table) (base : String) (type : TypeDecl) : Bool :=
  (table.ancestors type).contains (table.resolve base)

def inheritsFrom (table : Table) (base name : String) : Bool :=
  (table.ancestorsOf name).contains (table.resolve base)

def isMarkerOf (table : Table) (base name : String) : Bool :=
  table.resolve name = table.resolve base || table.inheritsFrom base name

-- The parameters are those of the nearest type above when the type has no constructor.
def parametersOf (table : Table) (name : String) : List String :=
  match table.get? name with
  | none => []
  | some type =>
    match type.parameters with
    | some parameters => parameters
    | none => ((table.ancestors type).findSome? fun above =>
        (table.declared? above).bind (·.parameters)).getD []

def firstArgument (table : Table) (marker : Marker) : Option Argument :=
  match marker.args with
  | argument :: _ => some argument
  | [] =>
    if marker.keywords.isEmpty then none
    else match table.parametersOf marker.typeName with
      | [] => none
      | first :: _ => Source.bound? first marker.keywords

def firstText (table : Table) (marker : Marker) : Option Text.Codes :=
  (table.firstArgument marker).bind (·.text?)

def findMarker (table : Table) (markers : List Marker) (base : String) : Option Marker :=
  markers.find? fun marker => table.isMarkerOf base marker.typeName

end EndpointCatalog.Symbol.Table
