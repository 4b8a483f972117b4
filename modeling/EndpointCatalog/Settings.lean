import EndpointCatalog.Collection.Basic
import EndpointCatalog.Discovery.Scan

namespace EndpointCatalog

open Discovery (WellKnown Guide standardVerbs)
open Files (Path)

-- Names with their values. A name is set when it is among them, also with an empty value.
abbrev Environment := List (String × String)

structure Settings where
  controllerBase : String := "mvc.ControllerBase"
  routeMarker : String := "mvc.Route"
  methodMarker : String := "mvc.routing.HttpMethod"
  baseUrl : Text.Codes := Collection.defaultBaseUrl
  output : Path := .ofString "postman.collection.g.nocommit.json"
  logFile : Path := .ofString "logs.g.nocommit.txt"
  defaultVerb : Option String := none
  deriving Repr

namespace Settings

inductive Variable where
  | controllerBase
  | routeMarker
  | methodMarker
  | baseUrl
  | output
  | logFile
  | defaultVerb
  deriving DecidableEq, Repr

def Variable.name : Variable → String
  | .controllerBase => "POSTGEN_CONTROLLER_BASE"
  | .routeMarker => "POSTGEN_ROUTE_MARKER"
  | .methodMarker => "POSTGEN_HTTP_METHOD_MARKER"
  | .baseUrl => "POSTGEN_BASE_URL"
  | .output => "POSTGEN_OUTPUT"
  | .logFile => "POSTGEN_LOG_FILE"
  | .defaultVerb => "POSTGEN_DEFAULT_VERB"

def Variable.value? (v : Variable) (environment : Environment) : Option String :=
  Source.bound? v.name environment

def verbOfText (text : String) : Option String := if text = "" then none else some (Text.upper text)

-- Settings from values for some of the variables. A variable without a value keeps its default.
def ofValues (value? : Variable → Option String) : Settings :=
  let standard : Settings := {}
  { controllerBase := (value? .controllerBase).getD standard.controllerBase
    routeMarker := (value? .routeMarker).getD standard.routeMarker
    methodMarker := (value? .methodMarker).getD standard.methodMarker
    baseUrl := ((value? .baseUrl).map Text.codes).getD standard.baseUrl
    output := ((value? .output).map Path.ofString).getD standard.output
    logFile := ((value? .logFile).map Path.ofString).getD standard.logFile
    defaultVerb := (value? .defaultVerb).bind verbOfText }

def ofEnvironment (environment : Environment) : Settings := ofValues (·.value? environment)

def known (settings : Settings) : WellKnown :=
  ⟨settings.controllerBase, settings.routeMarker, settings.methodMarker⟩

def guide (settings : Settings) : Guide := ⟨settings.known, standardVerbs, settings.defaultVerb⟩

end Settings

end EndpointCatalog
