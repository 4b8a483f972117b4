import EndpointCatalog.Text.Code
import EndpointCatalog.Text.Utf8

namespace EndpointCatalog.Text

inductive Encoding where
  | utf8
  | utf16 (bigEndian : Bool)
  | utf32 (bigEndian : Bool)
  deriving DecidableEq, Repr

def Encoding.name : Encoding → String
  | .utf8 => "utf-8"
  | .utf16 bigEndian => if bigEndian then "utf-16-be" else "utf-16-le"
  | .utf32 bigEndian => if bigEndian then "utf-32-be" else "utf-32-le"

def Encoding.mark : Encoding → List UInt8
  | .utf8 => [0xef, 0xbb, 0xbf]
  | .utf16 bigEndian => if bigEndian then [0xfe, 0xff] else [0xff, 0xfe]
  | .utf32 bigEndian => if bigEndian then [0x00, 0x00, 0xfe, 0xff] else [0xff, 0xfe, 0x00, 0x00]

-- The order matters, since one of the marks begins with another.
def encodings : List Encoding := [.utf32 true, .utf32 false, .utf16 true, .utf16 false, .utf8]

def encodingOfZeros : List UInt8 → Encoding
  | a :: b :: c :: d :: _ =>
    if a = 0 then (if b = 0 then .utf32 true else .utf16 true)
    else if b = 0 then (if c = 0 ∧ d = 0 then .utf32 false else .utf16 false)
    else .utf8
  | [a, b] => if a = 0 then .utf16 true else if b = 0 then .utf16 false else .utf8
  | _ => .utf8

def markedAs? (bytes : List UInt8) : Option Encoding :=
  encodings.find? (·.mark.isPrefixOf bytes)

-- A last character may lack bytes, and a code may be beyond the last character.
inductive DecodeError where
  | utf8 (e : Utf8Error)
  | truncated (encoding : Encoding) (byte : UInt8) (start stop : Nat)
  | outOfRange (encoding : Encoding) (byte : UInt8) (start stop : Nat)
  deriving DecidableEq, Repr

def DecodeError.message : DecodeError → String
  | .utf8 e => e.message
  | .truncated encoding byte start stop =>
    undecodableText encoding.name byte start stop "truncated data"
  | .outOfRange encoding byte start stop =>
    undecodableText encoding.name byte start stop "code point not in range(0x110000)"

def joinBytes (bigEndian : Bool) (bytes : List UInt8) : Nat :=
  (if bigEndian then bytes else bytes.reverse).foldl (fun code byte => code * 256 + byte.toNat) 0

def unitsFrom (bigEndian : Bool) (at_ : Nat) : List UInt8 → Except DecodeError (List Nat)
  | a :: b :: rest => (unitsFrom bigEndian (at_ + 2) rest).map (joinBytes bigEndian [a, b] :: ·)
  | [a] => .error (.truncated (.utf16 bigEndian) a at_ (at_ + 1))
  | [] => .ok []

def codesFrom (bigEndian : Bool) (at_ : Nat) : List UInt8 → Except DecodeError (List Nat)
  | a :: b :: c :: d :: rest =>
    let code := joinBytes bigEndian [a, b, c, d]
    if code < 0x110000 then (codesFrom bigEndian (at_ + 4) rest).map (code :: ·)
    else .error (.outOfRange (.utf32 bigEndian) a at_ (at_ + 4))
  | a :: rest => .error (.truncated (.utf32 bigEndian) a at_ (at_ + 1 + rest.length))
  | [] => .ok []

-- Positions count the mark, except in UTF-8.
def decodeAs (encoding : Encoding) (mark : Nat) (bytes : List UInt8) :
    Except DecodeError Codes :=
  match encoding with
  | .utf8 => (decodeFrom true Code.ofNat 0 none bytes).mapError .utf8
  | .utf16 bigEndian => (unitsFrom bigEndian mark bytes).map fun units => joinUnits (units.map .unit)
  | .utf32 bigEndian => (codesFrom bigEndian mark bytes).map (·.map Code.ofNat)

def decode (bytes : List UInt8) : Except DecodeError Codes :=
  match markedAs? bytes with
  | some encoding =>
    decodeAs encoding encoding.mark.length (bytes.drop encoding.mark.length)
  | none => decodeAs (encodingOfZeros bytes) 0 bytes

end EndpointCatalog.Text
