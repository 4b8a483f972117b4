import EndpointCatalog.Json.Basic
import EndpointCatalog.Schema.Basic
import EndpointCatalog.Text.Names

namespace EndpointCatalog.Schema

open Text (Codes codes)

inductive Fault where
  | forbidden (value : Json)
  | wrongKind (value : Json) (kinds : List Kind)
  | notAmong (value : Json) (values : List Json)
  | unequal (expected : Json)
  | absent (name : Codes)
  | unexpected (names : List Codes)
  | surplus (entries : List Json)
  | noAlternative (value : Json)
  | short (value : Json) (limit : Nat)
  | long (value : Json) (limit : Nat)
  | below (value bound : Json)
  | above (value bound : Json)

def listed (parts : List String) : String := String.intercalate ", " parts

def Fault.text : Fault → String
  | .forbidden value => "False schema does not allow " ++ value.messageText
  | .wrongKind value kinds =>
    value.messageText ++ " is not of type " ++ listed (kinds.map (Text.quoted ·.name))
  | .notAmong value values =>
    value.messageText ++ " is not one of " ++ (Json.arr values).messageText
  | .unequal expected => expected.messageText ++ " was expected"
  | .absent name => Text.quoted name ++ " is a required property"
  | .unexpected names =>
    "Additional properties are not allowed (" ++ listed (names.map Text.quoted) ++
      (if names.length = 1 then " was" else " were") ++ " unexpected)"
  | .surplus entries =>
    s!"Expected at most 0 items but found {entries.length} extra: " ++
      (match entries with
        | [entry] => entry.messageText
        | entries => (Json.arr entries).messageText)
  | .noAlternative value => value.messageText ++ " is not valid under any of the given schemas"
  | .short value limit =>
    value.messageText ++ (if limit = 1 then " should be non-empty" else " is too short")
  | .long value limit =>
    value.messageText ++ (if limit = 0 then " is expected to be empty" else " is too long")
  | .below value bound => value.messageText ++ " is less than the minimum of " ++ bound.messageText
  | .above value bound =>
    value.messageText ++ " is greater than the maximum of " ++ bound.messageText

structure Violation where
  path : List Codes
  fault : Fault

def Fault.here (fault : Fault) : Violation := ⟨[], fault⟩

def Violation.below (step : Codes) (violation : Violation) : Violation :=
  { violation with path := step :: violation.path }

def locationOf (path : List Codes) : Codes :=
  let path := List.intercalate "." path
  if path = [] then "<root>" else path

def messageAt (path : List Codes) (text : String) : Codes :=
  codes (text ++ " (at ") ++ locationOf path ++ codes ")"

def Violation.location (violation : Violation) : Codes := locationOf violation.path

def Violation.message (violation : Violation) : Codes :=
  messageAt violation.path violation.fault.text

-- Violations of one path keep their order.
def inPathOrder (violations : List Violation) : List Violation :=
  violations.mergeSort fun a b => Text.partsLe a.path b.path

end EndpointCatalog.Schema
