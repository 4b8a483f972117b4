import EndpointCatalog.Schema.Check
import EndpointCatalog.Schema.Reader

namespace EndpointCatalog.Schema

open Text (Codes codes)

def unescapeStep : Codes → Codes
  | .char '~' :: .char '1' :: rest => .char '/' :: unescapeStep rest
  | .char '~' :: .char '0' :: rest => .char '~' :: unescapeStep rest
  | c :: rest => c :: unescapeStep rest
  | [] => []

def percentBytes : List Char → List UInt8
  | '%' :: high :: low :: rest =>
    match Text.hexDigit? high, Text.hexDigit? low with
    | some h, some l => UInt8.ofNat (h * 16 + l) :: percentBytes rest
    | _, _ => 0x25 :: percentBytes (high :: low :: rest)
  | c :: rest => c.toString.toUTF8.toList ++ percentBytes rest
  | [] => []

-- What is no text without its percent signs, or was none before, stays as it is.
def percentDecode (text : Codes) : Codes :=
  match Text.charsFrom 0 text with
  | .error _ => text
  | .ok chars =>
    match Text.decodeUtf8 (percentBytes chars) with
    | .error _ => text
    | .ok decoded => decoded.map .char

def steps? (reference : Codes) : Option (List Codes) :=
  match reference with
  | [.char '#'] => some []
  | .char '#' :: .char '/' :: path =>
    some ((Text.cutAt (.char '/') (percentDecode path)).map unescapeStep)
  | _ => none

def itemNumber? (name : Codes) : Option Nat := (Text.stringOf name).toOption.bind String.toNat?

def step? (name : Codes) : Json → Option Json
  | .arr entries => (itemNumber? name).bind fun i => entries[i]?
  | value => value.find? name

def walk? (value : Json) (steps : List Codes) : Option Json :=
  steps.foldlM (fun value name => step? name value) value

mutual

def referencesOf : Json → List Codes
  | .arr entries => referencesOfItems entries
  | .obj fields => referencesOfMembers fields
  | _ => []

def referencesOfItems : List Json → List Codes
  | [] => []
  | entry :: rest => referencesOf entry ++ referencesOfItems rest

def referencesOfMembers : List (Codes × Json) → List Codes
  | [] => []
  | (name, value) :: rest =>
    (if name = "$ref" then (text? value).toList else []) ++ referencesOf value ++ referencesOfMembers rest

end

def target? (dialect : Dialect) (document : Json) (reference : Codes) :
    Option (Codes × Schema) := do
  let steps ← steps? reference
  let value ← walk? document steps
  let schema ← ofJson? dialect value
  return (reference, schema)

-- A document may have another form, be a value in which no member can be looked for, or give
-- something that is no name as the name of its dialect.
inductive Rejection where
  | malformed
  | unsearchable (document : Json)
  | unaddressed (dialect : Json)

def unsearchableText : Json → String
  | .int _ => "argument of type 'int' is not iterable"
  | .float _ => "argument of type 'float' is not iterable"
  | .str _ => "string indices must be integers, not 'str'"
  | _ => "list indices must be integers or slices, not str"

def unaddressedText : Json → String
  | .bool _ => "'bool' object has no attribute 'decode'"
  | .int _ => "'int' object has no attribute 'decode'"
  | .float _ => "'float' object has no attribute 'decode'"
  | .obj _ => "unhashable type: 'dict'"
  | _ => "unhashable type: 'list'"

def isBlankName : Json → Bool
  | .null => true
  | .bool b => !b
  | .int n => n = 0
  | .float x => x.isZero
  | _ => false

def dialectName : String := "$schema"

def hasInfix {α : Type} [DecidableEq α] (part : List α) : List α → Bool
  | [] => part.isEmpty
  | c :: rest => part.isPrefixOf (c :: rest) || hasInfix part rest

def dialectNamed : Json → Except Rejection Dialect
  | .str address => .ok (Dialect.ofAddress address)
  | value => .error (if isBlankName value then .malformed else .unaddressed value)

-- Texts and lists are searched for the name as such, and only if they have it in them the search
-- goes wrong.
def dialectOf (document : Json) : Except Rejection Dialect :=
  match document with
  | .obj fields => ((Json.obj fields).find? dialectName).elim (.ok .current) dialectNamed
  | .int _ | .float _ => .error (.unsearchable document)
  | .str s =>
    if hasInfix (codes dialectName) s then .error (.unsearchable document) else .ok .current
  | .arr entries =>
    if entries.any (·.same (.str dialectName)) then .error (.unsearchable document)
    else .ok .current
  | .null | .bool _ => .ok .current

end EndpointCatalog.Schema

namespace EndpointCatalog.SchemaDocument

open Schema (Rejection dialectOf ofJson? referencesOf target?)

def ofJson (document : Json) : Except Rejection SchemaDocument := do
  let dialect ← dialectOf document
  match ofJson? dialect document with
  | none => throw .malformed
  | some root =>
    return ⟨root, (referencesOf document).eraseDups.filterMap (target? dialect document)⟩

end EndpointCatalog.SchemaDocument
