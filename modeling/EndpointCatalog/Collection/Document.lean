import EndpointCatalog.Collection.Basic
import EndpointCatalog.Files.Tree

namespace EndpointCatalog.Collection

open Discovery (Application)
open Files (Path Tree)
open Json (TooManyDigits)
open Text (Codes codes)

structure UnsupportedNode where
  kind : String
  deriving DecidableEq, Repr

def UnsupportedNode.message (e : UnsupportedNode) : String :=
  "Unsupported collection node: " ++ e.kind

def field (name : Codes) (value : Json) : List (Codes × Json) :=
  match value with
  | .null => []
  | value => [(name, value)]

def Info.document (info : Info) : Json :=
  .obj (field "_postman_id" info.id ++ field "name" info.name ++ field "schema" info.schemaUrl
    ++ field "_exporter_id" info.exporterId)

def BodyOptions.document (options : BodyOptions) : Json :=
  .obj (match options.language with
    | none => []
    | some language => [("raw", .obj (field "language" language))])

def Body.document (body : Body) : Json :=
  .obj (field "mode" body.mode ++ field "raw" body.raw
    ++ (body.options.map fun options => (codes "options", options.document)).toList)

def Request.document (request : Request) : Json :=
  .obj (field "url" request.url ++ field "method" request.method
    ++ (request.body.map fun body => (codes "body", body.document)).toList)

def Item.document (item : Item) : Json :=
  .obj (field "id" item.id ++ field "name" item.name ++ [(codes "request", item.request.document)])

mutual

-- The first node below that has no document is the error.
def Node.document : Node → Except UnsupportedNode Json
  | .item item => .ok item.document
  | .group name nodes => do return .obj [("name", name), ("item", .arr (← nodeDocuments nodes))]
  | .other kind => .error ⟨kind⟩

def nodeDocuments : List Node → Except UnsupportedNode (List Json)
  | [] => .ok []
  | node :: rest => do
    let first ← node.document
    return first :: (← nodeDocuments rest)

end

def document (collection : Collection) : Except UnsupportedNode Json := do
  let nodes ← nodeDocuments collection.nodes
  return .obj [("info", collection.info.document), ("item", .arr nodes)]

inductive TextError where
  | unsupported (e : UnsupportedNode)
  | number (e : TooManyDigits)
  deriving DecidableEq, Repr

def textWithin (limit : Option Nat) (collection : Collection) : Except TextError Codes :=
  match collection.document with
  | .error e => .error (.unsupported e)
  | .ok document => (document.write limit .all .indented).mapError .number

def text (collection : Collection) : Except TextError Codes :=
  collection.textWithin (some Json.digitLimit)

inductive WriteError where
  | text (e : TextError)
  | file (e : Files.WriteError)

def TextError.message : TextError → String
  | .unsupported e => e.message
  | .number e => e.message

def WriteError.message : WriteError → String
  | .text e => e.message
  | .file e => e.message

def WriteError.ofSystem? : WriteError → Option Files.FileError
  | .text _ => none
  | .file e => e.ofSystem?

-- The directories above the file stay, whatever comes of the rest; the text is complete before the
-- file is opened.
def write (collection : Collection) (tree : Tree) (path : Path) : Tree × Option WriteError :=
  match tree.makeDirectories path.parent with
  | (grown, some e) => (grown, some (.file (.file e)))
  | (grown, none) =>
    match collection.text with
    | .error e => (grown, some (.text e))
    | .ok text =>
      let (written, failure) := grown.overwrite path text
      (written, failure.map .file)

def generate (application : Application) (base id : Codes) (exporterId : Nat) (tree : Tree)
    (path : Path) : Tree × Option WriteError :=
  match assemble application base id exporterId with
  | .error e => (tree, some (.text (.number e)))
  | .ok collection => collection.write tree path

end EndpointCatalog.Collection
