import EndpointCatalog.Json.Basic

namespace EndpointCatalog.Json

open Text (Code Codes codes hexDigits surrogatePair)

-- These are escaped although the format does not ask for it.
inductive Charset where
  | all
  | ascii
  deriving DecidableEq, Repr

def unicodeEscape (code : Nat) : List Char := '\\' :: 'u' :: hexDigits 4 code

def escapeWide (c : Char) : List Char :=
  if c.toNat < 0x10000 then unicodeEscape c.toNat
  else
    let (high, low) := surrogatePair c
    unicodeEscape high ++ unicodeEscape low

def escapeChar (charset : Charset) (c : Char) : List Char :=
  if c = '"' then ['\\', '"']
  else if c = '\\' then ['\\', '\\']
  else if c = '\n' then ['\\', 'n']
  else if c = '\r' then ['\\', 'r']
  else if c = '\t' then ['\\', 't']
  else if c.toNat = 8 then ['\\', 'b']
  else if c.toNat = 12 then ['\\', 'f']
  else if c.toNat < 0x20 then unicodeEscape c.toNat
  else if charset = .ascii ∧ 0x7e < c.toNat then escapeWide c
  else [c]

-- A half of a pair is spelled by its code in ASCII, and stands for itself otherwise.
def escapeCode (charset : Charset) : Code → Codes
  | .char c => (escapeChar charset c).map .char
  | .half unit =>
    if charset = .ascii then (unicodeEscape (0xd800 + unit)).map .char else [.half unit]

def spellString (charset : Charset) (s : Codes) : Codes :=
  .char '"' :: s.flatMap (escapeCode charset) ++ [.char '"']

inductive Layout where
  | line
  | indented
  deriving DecidableEq, Repr

def indent (depth : Nat) : Codes := .char '\n' :: List.replicate (2 * depth) (.char ' ')

def Layout.before : Layout → Nat → Codes
  | .line, _ => []
  | .indented, depth => indent depth

def Layout.between : Layout → Nat → Codes
  | .line, _ => [.char ',', .char ' ']
  | .indented, depth => .char ',' :: indent depth

def colon : Codes := [.char ':', .char ' ']

mutual

def spell (charset : Charset) (layout : Layout) (depth : Nat) : Json → Codes
  | .null => "null"
  | .bool b => if b then "true" else "false"
  | .int n => codes (toString n)
  | .float x => Decimal.documentText x
  | .str s => spellString charset s
  | .arr [] => [.char '[', .char ']']
  | .arr (item :: items) =>
    .char '[' :: layout.before (depth + 1) ++ spell charset layout (depth + 1) item
      ++ spellItems charset layout (depth + 1) items ++ layout.before depth ++ [.char ']']
  | .obj [] => [.char '\x7b', .char '\x7d']
  | .obj ((name, value) :: members) =>
    .char '\x7b' :: layout.before (depth + 1) ++ spellString charset name ++ colon
      ++ spell charset layout (depth + 1) value
      ++ spellMembers charset layout (depth + 1) members ++ layout.before depth ++ [.char '\x7d']

def spellItems (charset : Charset) (layout : Layout) (depth : Nat) : List Json → Codes
  | [] => []
  | item :: items =>
    layout.between depth ++ spell charset layout depth item ++ spellItems charset layout depth items

def spellMembers (charset : Charset) (layout : Layout) (depth : Nat) :
    List (Codes × Json) → Codes
  | [] => []
  | (name, value) :: members =>
    layout.between depth ++ spellString charset name ++ colon ++ spell charset layout depth value
      ++ spellMembers charset layout depth members

end

mutual

def wholes : Json → List Int
  | .int n => [n]
  | .arr items => itemWholes items
  | .obj members => memberWholes members
  | _ => []

def itemWholes : List Json → List Int
  | [] => []
  | item :: items => item.wholes ++ itemWholes items

def memberWholes : List (Codes × Json) → List Int
  | [] => []
  | (_, value) :: members => value.wholes ++ memberWholes members

end

structure TooManyDigits where
  count : Nat
  deriving DecidableEq, Repr

def TooManyDigits.message (_ : TooManyDigits) : String :=
  s!"Exceeds the limit ({digitLimit} digits) for integer string conversion; " ++
    "use sys.set_int_max_str_digits() to increase the limit"

def digitCount (n : Int) : Nat := (Nat.toDigits 10 n.natAbs).length

def oversized? (limit : Option Nat) (document : Json) : Option TooManyDigits :=
  ((document.wholes.map digitCount).find? (exceeds limit)).map .mk

def write (limit : Option Nat) (charset : Charset) (layout : Layout) (document : Json) :
    Except TooManyDigits Codes :=
  match document.oversized? limit with
  | some e => .error e
  | none => .ok (spell charset layout 0 document)

end EndpointCatalog.Json
