import EndpointCatalog.Discovery.Application
import EndpointCatalog.Json.Writer
import EndpointCatalog.Text.Printable

namespace EndpointCatalog.Collection

open Text (Codes codes)

def routePath (controllerPrefix route : Option Codes) : Codes :=
  List.intercalate "/" (([controllerPrefix, route].filterMap id).filter (· ≠ []))

def trimSlashes (base : Codes) : Codes := (base.reverse.dropWhile (· = .char '/')).reverse

def buildUrl (base : Codes) (controllerPrefix route : Option Codes) : Codes :=
  trimSlashes base ++ codes "/" ++ routePath controllerPrefix route

open Discovery (Application Controller Endpoint)

def collectionName : String := "Application Controllers"
def schemaAddress : String := "https://schema.getpostman.com/json/collection/v2.1.0/collection.json"
def defaultBaseUrl : String := "http://example.com"

def exporterBound : Nat := Nat.pow 2 31 - 1

structure Info where
  id : Json
  name : Json := .str collectionName
  schemaUrl : Json := .str schemaAddress
  exporterId : Json := .int 0

structure BodyOptions where
  language : Option Json := some (.str "json")

structure Body where
  mode : Json := .str "raw"
  raw : Json
  options : Option BodyOptions := some {}

structure Request where
  url : Json
  method : Json := .null
  body : Option Body := none

structure Item where
  id : Json := .null
  name : Json
  request : Request

-- What is neither an item nor a group has no text; nothing is kept of it but the name of its type.
inductive Node where
  | item (item : Item)
  | group (name : Json) (nodes : List Node)
  | other (kind : String)
  deriving Inhabited

def kindText : Json → String
  | .null => "NoneType"
  | .bool _ => "bool"
  | .int _ => "int"
  | .float _ => "float"
  | .str _ => "str"
  | .arr _ => "list"
  | .obj _ => "dict"

def Node.foreign (value : Json) : Node := .other (kindText value)

def optionalText (s : Option Codes) : Json := (s.map Json.str).getD .null

def Item.ofEndpoint (base : Codes) (controller : Controller) (endpoint : Endpoint) : Item :=
  { name := .str endpoint.name
    request :=
      { url := .str (buildUrl base controller.routePrefix endpoint.route)
        method := optionalText endpoint.verb
        body := endpoint.body.map fun body => { raw := .str (body.spell .ascii .line 0) } } }

end EndpointCatalog.Collection

namespace EndpointCatalog

open Discovery (Application)
open Collection (Info Node Item)
open Text (Codes)

structure Collection where
  info : Info
  nodes : List Node

namespace Collection

def ofApplication (application : Application) (base id : Codes) (exporterId : Nat) : Collection :=
  { info := { id := .str id, exporterId := .int exporterId }
    nodes := application.map fun (controller, endpoints) =>
      .group (.str controller.name)
        (endpoints.map fun endpoint => .item (.ofEndpoint base controller endpoint)) }

def bodies (application : Application) : List Json :=
  application.flatMap fun (_, endpoints) => endpoints.filterMap (·.body)

def assemble (application : Application) (base id : Codes) (exporterId : Nat) :
    Except Json.TooManyDigits Collection :=
  match (bodies application).findSome? (Json.oversized? (some Json.digitLimit)) with
  | some e => .error e
  | none => .ok (ofApplication application base id exporterId)

end Collection

end EndpointCatalog

namespace EndpointCatalog.Collection

-- The seventh byte says that an id is random, the ninth which layout it has.
def markByte (i : Nat) (b : UInt8) : Nat :=
  if i = 6 then 0x40 + b.toNat % 16
  else if i = 8 then 0x80 + b.toNat % 64
  else b.toNat

def idOfBytes (bytes : List UInt8) : String :=
  let digits := bytes.zipIdx.flatMap fun (b, i) =>
    (if i = 4 || i = 6 || i = 8 || i = 10 then ['-'] else []) ++ Text.hexDigits 2 (markByte i b)
  String.ofList digits

end EndpointCatalog.Collection
