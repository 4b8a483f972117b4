import EndpointCatalog.Decimal.Double
import EndpointCatalog.Text.Code

namespace EndpointCatalog.Source

open Decimal (Double)
open Text (Codes)

inductive Atom where
  | nothing
  | bool (value : Bool)
  | int (value : Int)
  | float (value : Double)
  | complex (real imaginary : Double)
  | str (value : Codes)
  | bytes (value : List UInt8)
  | ellipsis
  deriving DecidableEq, Repr, Inhabited

-- The items of a set and the keys of a dictionary are pairwise different under `Value.same`.
inductive Value where
  | atom (value : Atom)
  | tuple (items : List Value)
  | list (items : List Value)
  | set (items : List Value)
  | dict (entries : List (Value × Value))
  deriving Repr, Inhabited

def Value.nothing : Value := .atom .nothing
def Value.str (s : Codes) : Value := .atom (.str s)

def Value.text? : Value → Option Codes
  | .atom (.str s) => some s
  | _ => none

-- Truth values count as one and zero, and what is not complex has no imaginary part.
inductive Quantity where
  | whole (value : Int)
  | floating (value : Double)
  | complex (real imaginary : Double)

def Atom.quantity? : Atom → Option Quantity
  | .bool b => some (.whole (if b then 1 else 0))
  | .int n => some (.whole n)
  | .float x => some (.floating x)
  | .complex re im => some (.complex re im)
  | _ => none

def sameReal : Quantity → Quantity → Bool
  | .whole m, .whole n => m = n
  | .whole m, .floating y => y.compareInt m = some .eq
  | .floating x, .whole n => x.compareInt n = some .eq
  | .floating x, .floating y => x.compare y = some .eq
  | _, _ => false

-- The atoms `1`, `1.0` and `1.0+0j` are one number.
def Quantity.same : Quantity → Quantity → Bool
  | .complex a b, .complex c d =>
    sameReal (.floating a) (.floating c) && sameReal (.floating b) (.floating d)
  | .complex a b, y => b.isZero && sameReal (.floating a) y
  | x, .complex c d => d.isZero && sameReal x (.floating c)
  | x, y => sameReal x y

def Atom.same (a b : Atom) : Bool :=
  match a.quantity?, b.quantity? with
  | some x, some y => x.same y
  | none, none => decide (a = b)
  | _, _ => false

mutual

-- Lists, sets and dictionaries are never keys.
def Value.same : Value → Value → Bool
  | .atom a, .atom b => a.same b
  | .tuple xs, .tuple ys => sameItems xs ys
  | _, _ => false

def sameItems : List Value → List Value → Bool
  | [], [] => true
  | x :: xs, y :: ys => x.same y && sameItems xs ys
  | _, _ => false

end

mutual

def Value.isKey : Value → Bool
  | .atom _ => true
  | .tuple items => areKeys items
  | _ => false

def areKeys : List Value → Bool
  | [] => true
  | item :: items => item.isKey && areKeys items

end

-- An equal item that is there already stays.
def insertItem (item : Value) (items : List Value) : List Value :=
  if items.any (·.same item) then items else items ++ [item]

-- An equal key that is there already stays and takes the new value.
def insertEntry (key value : Value) : List (Value × Value) → List (Value × Value)
  | [] => [(key, value)]
  | (k, old) :: rest =>
    if k.same key then (k, value) :: rest else (k, old) :: insertEntry key value rest

end EndpointCatalog.Source
