import EndpointCatalog.Discovery.Application
import EndpointCatalog.Files.Tree
import EndpointCatalog.Symbol.Intake

namespace EndpointCatalog.Discovery

open Files (Path Tree FileError)

inductive Event where
  | skippedFile (path : Path)
  | missing (names : List String)
  | foundController (qualname : String)
  | skippedController (qualname reason : String)
  | foundMethod (qualname method : String)
  | unknownVerb (marker method : String)
  deriving DecidableEq, Repr

def Event.line : Event → String
  | .skippedFile path => "Skipped unparsable file " ++ path.text
  | .missing names => "Well-known types not found: " ++ String.intercalate ", " names
  | .foundController qualname => "Found controller " ++ qualname
  | .skippedController qualname reason => "Skipped controller " ++ qualname ++ ": " ++ reason
  | .foundMethod qualname method => "Found method " ++ qualname ++ "." ++ method
  | .unknownVerb marker method => "Unknown HTTP method marker " ++ marker ++ " on " ++ method

def logText (lines : List String) : String := String.join (lines.map (· ++ "\n"))

def writeLog (tree : Tree) (path : Path) (lines : List String) : Tree × Option Files.WriteError :=
  tree.write path (logText lines)

open Files (Path Tree)
open EndpointCatalog.Symbol (Table TypeDecl Method IntakeError)

structure Guide where
  known : WellKnown
  verbs : VerbTable
  defaultVerb : Option String

-- A marker without a verb is said in the log, and is an error when there is none.
def describeInto (table : Table) (guide : Guide) (log : Option (List String)) (method : Method) :
    Except UnknownVerb (Endpoint × Option (List String)) :=
  let (endpoint, unknown) := describeMethod table guide.known guide.verbs guide.defaultVerb method
  match unknown, log with
  | none, log => .ok (endpoint, log)
  | some e, some lines =>
    .ok (endpoint, some (lines ++ [(Event.unknownVerb e.marker method.name).line]))
  | some e, none => .error e

def controllers (table : Table) (base : String) : List TypeDecl :=
  table.types.filter (table.inherits base)

def scanMethod (table : Table) (guide : Guide) (type : TypeDecl) (method : Method) :
    Endpoint × List Event :=
  let (endpoint, unknown) := describeMethod table guide.known guide.verbs guide.defaultVerb method
  (endpoint, .foundMethod type.qualname method.name ::
    (unknown.map fun e => Event.unknownVerb e.marker method.name).toList)

def scanController (table : Table) (guide : Guide) (type : TypeDecl) :
    Option (Controller × List Endpoint) × List Event :=
  match describeController table guide.known type with
  | .error e => (none, [.foundController type.qualname, .skippedController type.qualname e.message])
  | .ok controller =>
    let scanned := (endpointMethods table guide.known type).map (scanMethod table guide type)
    (some (controller, scanned.map (·.1)), .foundController type.qualname :: scanned.flatMap (·.2))

-- There is no application unless every well-known type is declared.
def scanTable (table : Table) (guide : Guide) : Option Application × List Event :=
  match guide.known.names.filter (fun name => !table.contains name) with
  | [] =>
    let scanned := (controllers table guide.known.controllerBase).map (scanController table guide)
    (some (scanned.filterMap (·.1)), scanned.flatMap (·.2))
  | missing => (none, [.missing missing])

structure Scan where
  application : Option Application
  events : List Event

def Scan.lines (scan : Scan) : List String := scan.events.map Event.line

-- Skipped files are logged in front of everything else.
def scanRoots (tree : Tree) (roots : List Path) (guide : Guide) : Except IntakeError Scan :=
  match Table.empty.takeRoots tree roots with
  | (_, some e) => .error e
  | (table, none) =>
    let (application, events) := scanTable table guide
    .ok ⟨application, table.skipped.map Event.skippedFile ++ events⟩

end EndpointCatalog.Discovery
