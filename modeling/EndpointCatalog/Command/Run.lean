import EndpointCatalog.Collection.Basic
import EndpointCatalog.Collection.Document
import EndpointCatalog.Command.Request
import EndpointCatalog.Schema.Origin

namespace EndpointCatalog.Command

open Discovery (Application Controller Endpoint)
open Text (Codes codes EncodeError)

structure Row where
  controller : Controller
  endpoint : Endpoint

def rows (application : Application) : List Row :=
  application.flatMap fun (controller, endpoints) => endpoints.map (Row.mk controller)

def padded (width : Nat) (text : Codes) : Codes :=
  text ++ List.replicate (width - text.length) (.char ' ')

def Row.path (row : Row) : Codes :=
  Collection.routePath row.controller.routePrefix row.endpoint.route

def Row.verbText (row : Row) : Codes :=
  match row.endpoint.verb with
  | none => "-"
  | some verb => if verb = [] then "-" else verb

def Row.line (row : Row) : Codes :=
  padded 8 row.verbText ++ codes " /" ++ padded 40 row.path ++ codes " " ++ row.controller.name ++
    codes "." ++ row.endpoint.name

def Row.document (row : Row) : Json :=
  .obj [("controller", .str row.controller.name), ("method", .str row.endpoint.name),
    ("http_method", Collection.optionalText row.endpoint.verb),
    ("route_prefix", Collection.optionalText row.controller.routePrefix),
    ("route", Collection.optionalText row.endpoint.route)]

def rowLines (rows : List Row) : List Codes :=
  rows.map Row.line ++ [codes s!"{rows.length} endpoints"]

def rowsDocument (rows : List Row) : Json := .arr (rows.map Row.document)

open Files (Path Tree)
open EndpointCatalog.Symbol (IntakeError)
open Schema (Reply OriginError)
open Json (LoadError)

structure Surroundings where
  tree : Tree
  reply : String → Reply
  id : String
  exporterId : Nat

inductive Failure where
  | intake (e : IntakeError)
  | schema (e : OriginError)
  | document (e : LoadError)
  | log (e : Files.WriteError)
  | collection (e : Collection.WriteError)
  | printing (e : EncodeError)

def Failure.message : Failure → String
  | .intake e => e.message
  | .schema e => e.message
  | .document e => e.message
  | .log e => e.message
  | .collection e => e.message
  | .printing e => e.message

structure Outcome where
  tree : Tree
  output : List String := []
  complaints : List String := []
  status : Nat := 0
  failure : Option Failure := none

def printed (lines : List String) : String := String.join (lines.map (· ++ "\n"))

def printable : List Codes → List String × Option EncodeError
  | [] => ([], none)
  | line :: rest =>
    match Text.stringOf line with
    | .error e => ([], some e)
    | .ok line =>
      let (lines, failure) := printable rest
      (line :: lines, failure)

def Outcome.ofLines (tree : Tree) (status : Nat) (lines : List Codes) : Outcome :=
  match printable lines with
  | (shown, none) => { tree := tree, output := shown, status := status }
  | (shown, some e) => { tree := tree, output := shown, status := 1, failure := some (.printing e) }

def versionText : String := "0.1.0"

def helpLines : List String :=
  ["Usage: [--version] [--help] COMMAND [ARGS]...", "Commands: generate, endpoints, validate"]

def Surroundings.deliver (world : Surroundings) (settings : Settings) (scan : Discovery.Scan)
    (logged : Tree) (opening complaints : List String) : Outcome :=
  match scan.application with
  | none =>
    { tree := logged, complaints := complaints
      output := opening ++
        ["  Warning: Controller base or marker types not found. No collection written."] }
  | some application =>
    let found := opening ++ [s!"  Found {application.length} controllers",
      s!"  Found {Discovery.endpointCount application} endpoints"]
    match Collection.generate application settings.baseUrl world.id world.exporterId logged
        settings.output with
    | (tree, none) =>
      { tree := tree, complaints := complaints
        output := found ++ ["Generated " ++ settings.output.text] }
    | (tree, some e) =>
      match e.ofSystem? with
      | some refused =>
        { tree := tree, output := found, status := 1
          complaints := complaints ++
            ["Failed to write " ++ settings.output.text ++ ": " ++ refused.message] }
      | none =>
        { tree := tree, complaints := complaints, output := found, status := 1
          failure := some (.collection e) }

-- A log that the system refuses is only reported.
def Surroundings.generate (world : Surroundings) (sources : List Path) (settings : Settings) :
    Outcome :=
  let opening := ["Scanning sources..."]
  match Discovery.scanRoots world.tree sources settings.guide with
  | .error e => { tree := world.tree, output := opening, status := 1, failure := some (.intake e) }
  | .ok scan =>
    match Discovery.writeLog world.tree settings.logFile scan.lines with
    | (logged, none) => world.deliver settings scan logged opening []
    | (logged, some e) =>
      match e.ofSystem? with
      | some refused =>
        world.deliver settings scan logged opening
          ["Could not write log " ++ settings.logFile.text ++ ": " ++ refused.message]
      | none => { tree := logged, output := opening, status := 1, failure := some (.log e) }

-- The format is looked at only when there is something to list.
def Surroundings.endpoints (world : Surroundings) (sources : List Path) (settings : Settings)
    (format : String) : Outcome :=
  match Discovery.scanRoots world.tree sources settings.guide with
  | .error e => { tree := world.tree, status := 1, failure := some (.intake e) }
  | .ok scan =>
    match scan.application with
    | none => { tree := world.tree, output := ["Controller base or marker types not found."] }
    | some application =>
      let rows := rows application
      if format = "json" then
        .ofLines world.tree 0 [(rowsDocument rows).spell .ascii .indented 0]
      else if format = "table" then .ofLines world.tree 0 (rowLines rows)
      else { tree := world.tree, status := 2, complaints := ["format must be 'table' or 'json'"] }

def Surroundings.schemaFor (world : Surroundings) (file : Option Path) (address : Option String) :
    Except OriginError SchemaDocument :=
  match address, file with
  | some address, _ => Schema.ofReply address (world.reply address)
  | none, some path => Schema.ofFile world.tree path
  | none, none => .ok Collection.schema

def Surroundings.validate (world : Surroundings) (document : Path) (file : Option Path)
    (address : Option String) : Outcome :=
  if !world.tree.has document then
    { tree := world.tree, status := 1
      complaints := ["Error: " ++ document.text ++ " does not exist"] }
  else match world.schemaFor file address with
  | .error (.fetch e) => { tree := world.tree, status := 1, complaints := [e.message] }
  | .error e => { tree := world.tree, status := 1, failure := some (.schema e) }
  | .ok schema =>
    match Json.load world.tree document with
    | .error (.text (.unexpected cause line column offset)) =>
      { tree := world.tree, status := 1
        complaints := ["Error: " ++ document.text ++ " is not valid JSON: " ++
          (Json.ReadError.unexpected cause line column offset).message] }
    | .error e => { tree := world.tree, status := 1, failure := some (.document e) }
    | .ok value =>
      match schema.messages value with
      | [] => { tree := world.tree, output := [document.text ++ " is valid"] }
      | messages =>
        .ofLines world.tree 1 (messages.map (codes "  " ++ ·) ++
          [codes (document.text ++ s!" is invalid ({messages.length} errors)")])

def Request.run (world : Surroundings) : Request → Outcome
  | .version => { tree := world.tree, output := [versionText] }
  | .help => { tree := world.tree, output := helpLines }
  | .generate sources settings => world.generate sources settings
  | .endpoints sources settings format => world.endpoints sources settings format
  | .validate document file address => world.validate document file address

def Request.inputs : Request → List Path
  | .version | .help => []
  | .generate sources _ | .endpoints sources _ _ => sources
  | .validate document file _ => document :: file.toList

def Request.outputs : Request → List Path
  | .generate _ settings => [settings.logFile, settings.output]
  | _ => []

-- A command line that asks for nothing ends with status 2 and changes nothing.
def run (world : Surroundings) (environment : Environment) (line : List String) : Outcome :=
  match Request.ofArguments? environment line with
  | some request => request.run world
  | none => { tree := world.tree, status := 2, complaints := helpLines }

end EndpointCatalog.Command
