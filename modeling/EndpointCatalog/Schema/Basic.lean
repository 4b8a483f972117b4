import EndpointCatalog.Json.Basic

namespace EndpointCatalog

open Text (Codes)

-- There are two kinds of integers, because dialects differ about a fraction part of zero.
inductive Kind where
  | null
  | boolean
  | integer
  | plainInteger
  | number
  | string
  | array
  | object
  deriving DecidableEq, Repr

namespace Kind

def name : Kind → String
  | .null => "null"
  | .boolean => "boolean"
  | .integer | .plainInteger => "integer"
  | .number => "number"
  | .string => "string"
  | .array => "array"
  | .object => "object"

def has : Kind → Json → Bool
  | .null, .null => true
  | .boolean, .bool _ => true
  | .integer, .int _ => true
  | .integer, .float x => x.isWhole
  | .plainInteger, .int _ => true
  | .number, .int _ => true
  | .number, .float _ => true
  | .string, .str _ => true
  | .array, .arr _ => true
  | .object, .obj _ => true
  | _, _ => false

end Kind

inductive Schema where
  | always
  | never
  | all (demands : List Schema)
  | ofKind (kinds : List Kind)
  | among (values : List Json)
  | equal (value : Json)
  | required (names : List Codes)
  | members (schemas : List (Codes × Schema))
  | closed (known : List Codes)
  | others (known : List Codes) (schema : Schema)
  | items (schema : Schema)
  -- Items beyond these are free.
  | itemsInTurn (schemas : List Schema)
  | noItems
  | anyOf (alternatives : List Schema)
  | minLength (length : Nat)
  | minItems (count : Nat)
  | maxItems (count : Nat)
  | minimum (bound : Json)
  | maximum (bound : Json)
  | reference (name : Codes)
  deriving Inhabited

structure SchemaDocument where
  root : Schema
  targets : List (Codes × Schema)

end EndpointCatalog
