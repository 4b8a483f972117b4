import EndpointCatalog.Json.Basic
import EndpointCatalog.Text.Code

namespace EndpointCatalog.Json

open Decimal (Double)
open Text (Code Codes Spelled joinUnits)

inductive Cause where
  | value
  | comma
  | colon
  | memberName
  | extraData
  | escape
  | unicodeEscape
  | controlCharacter
  | unterminatedString
  | byteOrderMark
  deriving DecidableEq, Repr

def Cause.text : Cause → String
  | .value => "Expecting value"
  | .comma => "Expecting ',' delimiter"
  | .colon => "Expecting ':' delimiter"
  | .memberName => "Expecting property name enclosed in double quotes"
  | .extraData => "Extra data"
  | .escape => "Invalid \\escape"
  | .unicodeEscape => "Invalid \\uXXXX escape"
  | .controlCharacter => "Invalid control character at"
  | .unterminatedString => "Unterminated string starting at"
  | .byteOrderMark => "Unexpected UTF-8 BOM (decode using utf-8-sig)"

-- The number is how many characters were left at the place of the cause.
inductive Fault where
  | unexpected (cause : Cause) (left : Nat)
  | tooManyDigits (count : Nat)
  deriving DecidableEq, Repr

def stop {α : Type} (cause : Cause) (rest : Codes) : Except Fault (α × Codes) :=
  .error (.unexpected cause rest.length)

def isBlank (c : Char) : Bool := c = ' ' || c = '\t' || c = '\n' || c = '\r'

def isDigit (c : Char) : Bool := decide ('0' ≤ c ∧ c ≤ '9')

def skipBlanks (text : Codes) : Codes := text.dropWhile (·.is isBlank)

def simpleEscape? : Code → Option Char
  | .char '"' => some '"'
  | .char '\\' => some '\\'
  | .char '/' => some '/'
  | .char 'b' => some '\x08'
  | .char 'f' => some '\x0c'
  | .char 'n' => some '\n'
  | .char 'r' => some '\r'
  | .char 't' => some '\t'
  | _ => none

def hexDigit? : Code → Option Nat
  | .char c => Text.hexDigit? c
  | .half _ => none

def readUnit? (a b c d : Code) : Option Nat := do
  return (((← hexDigit? a) * 16 + (← hexDigit? b)) * 16 + (← hexDigit? c)) * 16 + (← hexDigit? d)

def readSpelled (opening : Codes) : Codes → Except Fault (List Spelled × Codes)
  | [] => stop .unterminatedString opening
  | .char '"' :: rest => .ok ([], rest)
  | .char '\\' :: rest =>
    match rest with
    | [] => stop .unterminatedString opening
    | .char 'u' :: a :: b :: c :: d :: next :: tail =>
      match readUnit? a b c d with
      | none => stop .unicodeEscape rest
      | some unit => do
        let (spelled, rest) ← readSpelled opening (next :: tail)
        return (.unit unit :: spelled, rest)
    | .char 'u' :: _ => stop .unicodeEscape rest
    | letter :: tail =>
      match simpleEscape? letter with
      | none => stop .escape (.char '\\' :: rest)
      | some c => do
        let (spelled, rest) ← readSpelled opening tail
        return (.plain (.char c) :: spelled, rest)
  | code :: rest =>
    if code.toNat < 0x20 then stop .controlCharacter (code :: rest)
    else do
      let (spelled, rest) ← readSpelled opening rest
      return (.plain code :: spelled, rest)

def readString (opening text : Codes) : Except Fault (Codes × Codes) := do
  let (spelled, rest) ← readSpelled opening text
  return (joinUnits spelled, rest)

def spanDigits : Codes → List Char × Codes
  | .char c :: rest =>
    if isDigit c then
      let (digits, rest) := spanDigits rest
      (c :: digits, rest)
    else ([], .char c :: rest)
  | text => ([], text)

def readWhole? : Codes → Option (List Char × Codes)
  | .char '0' :: rest => some (['0'], rest)
  | text =>
    match spanDigits text with
    | ([], _) => none
    | (digits, rest) => some (digits, rest)

-- A point without a digit behind it is not taken.
def readFraction : Codes → List Char × Codes
  | .char '.' :: rest =>
    match spanDigits rest with
    | ([], _) => ([], .char '.' :: rest)
    | (digits, rest) => (digits, rest)
  | text => ([], text)

-- A letter without digits behind it is not taken.
def readExponent? (text : Codes) : Option (Int × Codes) :=
  match text with
  | e :: rest =>
    if e = .char 'e' || e = .char 'E' then
      let (negative, digits) :=
        match rest with
        | .char '-' :: tail => (true, tail)
        | .char '+' :: tail => (false, tail)
        | _ => (false, rest)
      match spanDigits digits with
      | ([], _) => none
      | (digits, rest) =>
        let size : Int := Nat.ofDigitChars 10 digits 0
        some (if negative then -size else size, rest)
    else none
  | [] => none

-- A whole number has any size up to the limit.
def readNumber (limit : Option Nat) (start : Codes) (negative : Bool) (text : Codes) :
    Except Fault (Json × Codes) :=
  match readWhole? text with
  | none => stop .value start
  | some (whole, afterWhole) =>
    let (fraction, afterFraction) := readFraction afterWhole
    let exponent := readExponent? afterFraction
    if fraction.isEmpty && exponent.isNone then
      if exceeds limit whole.length then .error (.tooManyDigits whole.length)
      else
        let size : Int := Nat.ofDigitChars 10 whole 0
        .ok (.int (if negative then -size else size), afterWhole)
    else
      let (power, rest) := exponent.getD (0, afterFraction)
      let digits := Nat.ofDigitChars 10 (whole ++ fraction) 0
      .ok (.float (Double.ofScientific negative digits (power - fraction.length)), rest)

def after? (word : Codes) (text : Codes) : Option Codes :=
  if word.isPrefixOf text then some (text.drop word.length) else none

def words : List (Codes × Json) :=
  [("null", .null), ("true", .bool true), ("false", .bool false), ("NaN", .float .nan),
    ("Infinity", .float (.infinity false)), ("-Infinity", .float (.infinity true))]

def readWord? (text : Codes) : Option (Json × Codes) :=
  words.findSome? fun (word, value) => (after? word text).map (value, ·)

def readPlain (limit : Option Nat) (text : Codes) : Except Fault (Json × Codes) :=
  match readWord? text with
  | some (value, rest) => .ok (value, rest)
  | none => match text with
    | .char '-' :: rest => readNumber limit text true rest
    | _ => readNumber limit text false text

mutual

-- Every call but the last takes a character, so that the length of the text is fuel enough.
def readValue (limit : Option Nat) : Nat → Codes → Except Fault (Json × Codes)
  | 0, text => stop .value text
  | fuel + 1, text =>
    match text with
    | [] => stop .value text
    | .char '"' :: rest => do
      let (value, rest) ← readString text rest
      return (.str value, rest)
    | .char '[' :: rest =>
      match skipBlanks rest with
      | .char ']' :: rest => .ok (.arr [], rest)
      | rest => do
        let (items, rest) ← readItems limit fuel rest
        return (.arr items, rest)
    | .char '\x7b' :: rest =>
      match skipBlanks rest with
      | .char '\x7d' :: rest => .ok (.obj [], rest)
      | rest => do
        let (members, rest) ← readMembers limit fuel [] rest
        return (.obj members, rest)
    | _ => readPlain limit text

def readItems (limit : Option Nat) : Nat → Codes → Except Fault (List Json × Codes)
  | 0, text => stop .value text
  | fuel + 1, text => do
    let (item, rest) ← readValue limit fuel text
    match skipBlanks rest with
    | .char ']' :: rest => return ([item], rest)
    | .char ',' :: rest =>
      let (items, rest) ← readItems limit fuel (skipBlanks rest)
      return (item :: items, rest)
    | rest => stop .comma rest

def readMembers (limit : Option Nat) : Nat → List (Codes × Json) → Codes →
    Except Fault (List (Codes × Json) × Codes)
  | 0, _, text => stop .value text
  | fuel + 1, done, text =>
    match text with
    | .char '"' :: rest => do
      let (name, rest) ← readString text rest
      match skipBlanks rest with
      | .char ':' :: rest =>
        let (value, rest) ← readValue limit fuel (skipBlanks rest)
        match skipBlanks rest with
        | .char '\x7d' :: rest => return (put name value done, rest)
        | .char ',' :: rest => readMembers limit fuel (put name value done) (skipBlanks rest)
        | rest => stop .comma rest
      | rest => stop .colon rest
    | _ => stop .memberName text

end

-- The places are the line, the column and the offset of the cause.
inductive ReadError where
  | unexpected (cause : Cause) (line column offset : Nat)
  | tooManyDigits (count : Nat)
  deriving DecidableEq, Repr

def placeAfter (text : Codes) : Nat × Nat :=
  (text.count (.char '\n') + 1, (text.reverse.takeWhile (· ≠ .char '\n')).length + 1)

def ReadError.ofFault (text : Codes) : Fault → ReadError
  | .unexpected cause left =>
    let offset := text.length - left
    let (line, column) := placeAfter (text.take offset)
    .unexpected cause line column offset
  | .tooManyDigits count => .tooManyDigits count

def ReadError.message : ReadError → String
  | .unexpected cause line column offset =>
    cause.text ++ s!": line {line} column {column} (char {offset})"
  | .tooManyDigits count =>
    s!"Exceeds the limit ({digitLimit} digits) for integer string conversion: " ++
      s!"value has {count} digits; use sys.set_int_max_str_digits() to increase the limit"

def readWithin (limit : Option Nat) (text : Codes) : Except ReadError Json :=
  if text.head? = some (.char (Char.ofNat 0xfeff)) then
    .error (.ofFault text (.unexpected .byteOrderMark text.length))
  else match readValue limit (text.length + 1) (skipBlanks text) with
    | .error fault => .error (.ofFault text fault)
    | .ok (value, rest) =>
      match skipBlanks rest with
      | [] => .ok value
      | rest => .error (.ofFault text (.unexpected .extraData rest.length))

def read (text : Codes) : Except ReadError Json := readWithin (some digitLimit) text

end EndpointCatalog.Json
