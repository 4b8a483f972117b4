import EndpointCatalog.Decimal.Notation
import EndpointCatalog.Text.Printable

namespace EndpointCatalog

open Decimal (Double)
open Text (Codes)

inductive Json where
  | null
  | bool (value : Bool)
  | int (value : Int)
  | float (value : Double)
  | str (value : Codes)
  | arr (items : List Json)
  | obj (members : List (Codes × Json))
  deriving Inhabited

namespace Json

-- A name that is there already keeps its place and takes the new value.
def put (name : Codes) (value : Json) : List (Codes × Json) → List (Codes × Json)
  | [] => [(name, value)]
  | (key, old) :: rest =>
    if key = name then (key, value) :: rest else (key, old) :: put name value rest

def members : Json → List (Codes × Json)
  | .obj members => members
  | _ => []

def find? (document : Json) (name : Codes) : Option Json :=
  (document.members.find? (·.1 = name)).map (·.2)

def digitLimit : Nat := 4300

def exceeds (limit : Option Nat) (count : Nat) : Bool := limit.any (· < count)

def compareNumbers : Json → Json → Option Ordering
  | .int m, .int n => some (compare m n)
  | .int m, .float y => (y.compareInt m).map Ordering.swap
  | .float x, .int n => x.compareInt n
  | .float x, .float y => x.compare y
  | _, _ => none

mutual

-- What is not a number is equal to itself.
def same : Json → Json → Bool
  | .null, .null => true
  | .bool a, .bool b => a == b
  | .str a, .str b => a = b
  | .arr xs, .arr ys => sameItems xs ys
  | .obj xs, .obj ys => xs.length = ys.length && sameMembers xs ys
  | .float x, .float y => (x.isNaN && y.isNaN) || x.compare y = some .eq
  | x, y => compareNumbers x y = some .eq

def sameItems : List Json → List Json → Bool
  | [], [] => true
  | x :: xs, y :: ys => x.same y && sameItems xs ys
  | _, _ => false

def sameMembers : List (Codes × Json) → List (Codes × Json) → Bool
  | [], _ => true
  | (name, value) :: rest, others =>
    (match others.find? (·.1 = name) with
      | some (_, other) => value.same other
      | none => false) && sameMembers rest others

end

def distinct : List Json → Bool
  | [] => true
  | item :: rest => !rest.any item.same && distinct rest

mutual

def messageText : Json → String
  | .null => "None"
  | .bool b => if b then "True" else "False"
  | .int n => toString n
  | .float x => Decimal.messageText x
  | .str s => Text.quoted s
  | .arr items => "[" ++ String.intercalate ", " (itemTexts items) ++ "]"
  | .obj members => "\x7b" ++ String.intercalate ", " (memberTexts members) ++ "\x7d"

def itemTexts : List Json → List String
  | [] => []
  | item :: items => item.messageText :: itemTexts items

def memberTexts : List (Codes × Json) → List String
  | [] => []
  | (name, value) :: members =>
    (Text.quoted name ++ ": " ++ value.messageText) :: memberTexts members

end

end Json

end EndpointCatalog
