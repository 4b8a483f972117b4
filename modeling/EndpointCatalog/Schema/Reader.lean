import EndpointCatalog.Schema.Basic
import EndpointCatalog.Text.CodeRanges
import EndpointCatalog.Text.Utf8

namespace EndpointCatalog.Schema

open Text (Codes codes)

inductive Dialect where
  | draft4
  | draft7
  | current
  deriving DecidableEq, Repr

-- An empty fragment at the end of an address does not count.
def Dialect.ofAddress (address : Codes) : Dialect :=
  let bare := match address.reverse with
    | .char '#' :: rest => rest.reverse
    | _ => address
  if bare = codes "http://json-schema.org/draft-04/schema" then .draft4
  else if bare = codes "http://json-schema.org/draft-06/schema" then .draft7
  else if bare = codes "http://json-schema.org/draft-07/schema" then .draft7
  else .current

inductive Keyword where
  | type
  | enum
  | const
  | required
  | properties
  | additionalProperties
  | items
  | anyOf
  | ref
  | definitions
  | minLength
  | minItems
  | maxItems
  | minimum
  | maximum
  | label
  deriving DecidableEq, Repr

def commonKeywords : List (String × Keyword) :=
  [("type", .type), ("enum", .enum), ("required", .required), ("properties", .properties),
    ("additionalProperties", .additionalProperties), ("items", .items), ("anyOf", .anyOf),
    ("$ref", .ref), ("definitions", .definitions), ("minLength", .minLength),
    ("minItems", .minItems), ("maxItems", .maxItems), ("minimum", .minimum), ("maximum", .maximum),
    ("$schema", .label), ("title", .label), ("description", .label), ("format", .label)]

def Dialect.keywords : Dialect → List (String × Keyword)
  | .draft4 => ("id", .label) :: commonKeywords
  | .draft7 => ("const", .const) :: ("$id", .label) :: ("$comment", .label) :: commonKeywords
  | .current =>
    ("const", .const) :: ("$id", .label) :: ("$comment", .label) :: ("$defs", .definitions) ::
      commonKeywords

def Dialect.keyword? (dialect : Dialect) (name : Codes) : Option Keyword :=
  (dialect.keywords.find? (codes ·.1 = name)).map (·.2)

-- The oldest dialect knows no integers with a fraction part.
def Dialect.kinds (dialect : Dialect) : List Kind :=
  [.null, .boolean, if dialect = .draft4 then .plainInteger else .integer, .number, .string, .array,
    .object]

def kind? (dialect : Dialect) : Json → Option Kind
  | .str name => dialect.kinds.find? (codes ·.name = name)
  | _ => none

def kinds? (dialect : Dialect) : Json → Option (List Kind)
  | .arr entries =>
    if entries.isEmpty || !Json.distinct entries then none else entries.mapM (kind? dialect)
  | value => (kind? dialect value).map ([·])

def text? : Json → Option Codes
  | .str s => some s
  | _ => none

-- The oldest dialect wants at least one name.
def names? (dialect : Dialect) : Json → Option (List Codes)
  | .arr entries =>
    if (dialect = .draft4 && entries.isEmpty) || !Json.distinct entries then none
    else entries.mapM text?
  | _ => none

-- The oldest dialect wants at least one value, and no two that are equal.
def values? (dialect : Dialect) : Json → Option (List Json)
  | .arr entries =>
    if dialect = .draft4 && (entries.isEmpty || !Json.distinct entries) then none else some entries
  | _ => none

-- All dialects but the oldest take a count with a fraction part of zero.
def count? (dialect : Dialect) : Json → Option Nat
  | .int n => if 0 ≤ n then some n.toNat else none
  | .float x =>
    if dialect ≠ .draft4 ∧ x.isWhole ∧ (x.isZero ∨ ¬x.isNegative) then
      some (x.magnitude.1 / x.magnitude.2)
    else none
  | _ => none

def number? : Json → Option Json
  | .int n => some (.int n)
  | .float x => some (.float x)
  | _ => none

def knownNames (fields : List (Codes × Json)) : List Codes :=
  ((Json.obj fields).find? "properties").elim [] fun properties => properties.members.map (·.1)

def isReference : Schema → Bool
  | .reference _ => true
  | _ => false

-- Except in the newest dialect a reference hides everything beside it.
def gather (dialect : Dialect) (demands : List Schema) : Schema :=
  match dialect, demands.find? isReference with
  | .current, _ => .all demands
  | _, some only => only
  | _, none => .all demands

mutual

def ofJson? (dialect : Dialect) : Json → Option Schema
  | .bool b => if dialect = .draft4 then none else some (if b then .always else .never)
  | .obj fields => (demands? dialect (knownNames fields) fields).map (gather dialect)
  | _ => none

def demands? (dialect : Dialect) (known : List Codes) : List (Codes × Json) → Option (List Schema)
  | [] => some []
  | (name, value) :: rest => do
    let own ← match dialect.keyword? name with
      | some keyword => demand? dialect known keyword value
      | none => some []
    return own ++ (← demands? dialect known rest)

-- A keyword that only describes demands nothing.
def demand? (dialect : Dialect) (known : List Codes) (keyword : Keyword) (value : Json) :
    Option (List Schema) :=
  match keyword, value with
  | .type, value => (kinds? dialect value).map ([.ofKind ·])
  | .enum, value => (values? dialect value).map ([.among ·])
  | .const, value => some [.equal value]
  | .required, value => (names? dialect value).map ([.required ·])
  | .properties, .obj fields => (named? dialect fields).map ([.members ·])
  | .additionalProperties, .bool false => some [.closed known]
  | .additionalProperties, .bool true => some []
  | .additionalProperties, .obj fields => (ofJson? dialect (.obj fields)).map ([.others known ·])
  | .items, .bool b =>
    if b = false ∧ dialect = .current then some [.noItems]
    else (ofJson? dialect (.bool b)).map ([.items ·])
  | .items, .obj fields => (ofJson? dialect (.obj fields)).map ([.items ·])
  | .items, .arr (entry :: entries) =>
    if dialect = .current then none
    else (schemas? dialect (entry :: entries)).map ([.itemsInTurn ·])
  | .anyOf, .arr (entry :: entries) => (schemas? dialect (entry :: entries)).map ([.anyOf ·])
  | .ref, value => (text? value).map ([.reference ·])
  | .definitions, .obj fields => (named? dialect fields).map fun _ => []
  | .minLength, value => (count? dialect value).map ([.minLength ·])
  | .minItems, value => (count? dialect value).map ([.minItems ·])
  | .maxItems, value => (count? dialect value).map ([.maxItems ·])
  | .minimum, value => (number? value).map ([.minimum ·])
  | .maximum, value => (number? value).map ([.maximum ·])
  | .label, value => (text? value).map fun _ => []
  | _, _ => none

def schemas? (dialect : Dialect) : List Json → Option (List Schema)
  | [] => some []
  | entry :: rest => do
    let schema ← ofJson? dialect entry
    return schema :: (← schemas? dialect rest)

def named? (dialect : Dialect) : List (Codes × Json) → Option (List (Codes × Schema))
  | [] => some []
  | (name, value) :: rest => do
    let schema ← ofJson? dialect value
    return (name, schema) :: (← named? dialect rest)

end

end EndpointCatalog.Schema
