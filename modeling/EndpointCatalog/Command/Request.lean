import EndpointCatalog.Command.Arguments
import EndpointCatalog.Settings

namespace EndpointCatalog.Command

open Files (Path)
open Settings (Variable)

inductive Request where
  | version
  | help
  | generate (sources : List Path) (settings : Settings)
  | endpoints (sources : List Path) (settings : Settings) (format : String)
  | validate (document : Path) (schema : Option Path) (address : Option String)

inductive Opt where
  | version
  | help
  | verbose
  | format
  | schema
  | schemaUrl
  | setting (variable_ : Variable)
  deriving DecidableEq, Repr

def flag (option : Opt) (long : String) (short : Option Char) : Spelling Opt :=
  ⟨option, long, short, false⟩
def valued (option : Opt) (long : String) (short : Option Char) : Spelling Opt :=
  ⟨option, long, short, true⟩

def helpFlag : Spelling Opt := flag .help "--help" none

def generalOptions : List (Spelling Opt) := [flag .version "--version" none, helpFlag]

def scanOptions : List (Spelling Opt) :=
  [valued (.setting .controllerBase) "--controller-base" none,
    valued (.setting .routeMarker) "--route-marker" none,
    valued (.setting .methodMarker) "--http-method-marker" none,
    valued (.setting .defaultVerb) "--default-verb" none,
    flag .verbose "--verbose" (some 'v'), helpFlag]

def generateOptions : List (Spelling Opt) :=
  [valued (.setting .output) "--output" (some 'o'), valued (.setting .logFile) "--log-file" none,
    valued (.setting .baseUrl) "--base-url" none] ++ scanOptions

def endpointsOptions : List (Spelling Opt) := valued .format "--format" (some 'f') :: scanOptions

def validateOptions : List (Spelling Opt) :=
  [valued .schema "--schema" none, valued .schemaUrl "--schema-url" none, helpFlag]

def unlessEmpty (text : Option String) : Option String := text.filter (· ≠ "")

-- What an option says counts before the environment.
def settingsOf (environment : Environment) (arguments : Arguments Opt) : Settings :=
  .ofValues fun v => (arguments.value? (.setting v)).or (unlessEmpty (v.value? environment))

def pathsOf (operands : List String) : List Path := operands.map Path.ofString

def readCommand? (options : List (Spelling Opt)) (make : Arguments Opt → Option Request)
    (rest : List String) : Option Request := do
  let arguments ← readArguments? options .anywhere rest
  if arguments.given .help then return .help else make arguments

def generateRequest? (environment : Environment) (arguments : Arguments Opt) : Option Request :=
  if arguments.operands.isEmpty then none
  else some (.generate (pathsOf arguments.operands) (settingsOf environment arguments))

def endpointsRequest? (environment : Environment) (arguments : Arguments Opt) : Option Request :=
  if arguments.operands.isEmpty then none
  else some (.endpoints (pathsOf arguments.operands) (settingsOf environment arguments)
    ((arguments.value? .format).getD "table"))

def validateRequest? (arguments : Arguments Opt) : Option Request :=
  match arguments.operands with
  | [document] =>
    some (.validate (.ofString document) ((arguments.value? .schema).map Path.ofString)
      (unlessEmpty (arguments.value? .schemaUrl)))
  | _ => none

def Request.ofArguments? (environment : Environment) (line : List String) : Option Request := do
  let general ← readArguments? generalOptions .inFront line
  match general.options with
  | (.version, _) :: _ => return .version
  | (.help, _) :: _ => return .help
  | _ =>
    match general.operands with
    | "generate" :: rest => readCommand? generateOptions (generateRequest? environment) rest
    | "endpoints" :: rest => readCommand? endpointsOptions (endpointsRequest? environment) rest
    | "validate" :: rest => readCommand? validateOptions validateRequest? rest
    | _ => none

end EndpointCatalog.Command
