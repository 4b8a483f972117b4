import EndpointCatalog.Text.Case
import EndpointCatalog.Text.CodeRanges
import EndpointCatalog.Text.IdentifierTable

namespace EndpointCatalog.Text

def components (name : String) : List String := (cutAt '.' name.toList).map String.ofList

def joinDots (parts : List String) : String := String.intercalate "." parts

def qualify (outer name : String) : String := if outer = "" then name else outer ++ "." ++ name

-- It is empty when there is no dot.
def outerName (name : String) : String := joinDots (components name).dropLast

def lastName (name : String) : String := (components name).getLastD ""

def firstName (name : String) : String := (components name).headD ""

def partsLe {α : Type} [DecidableEq α] [LT α] [DecidableLT α] : List α → List α → Bool
  | [], _ => true
  | _ :: _, [] => false
  | a :: as, b :: bs => if a = b then partsLe as bs else decide (a < b)

def identifierStartSet : CodeRanges := .ofText IdentifierTable.start
def identifierContinuationSet : CodeRanges := .ofText IdentifierTable.continuation

def isIdentifierStart (c : Char) : Bool :=
  if c.toNat < 128 then c.isAlpha || c = '_' else identifierStartSet.contains c

def isIdentifierPart (c : Char) : Bool :=
  if c.toNat < 128 then c.isAlphanum || c = '_' else identifierContinuationSet.contains c

def isIdentifier : List Char → Bool
  | [] => false
  | c :: rest => isIdentifierStart c && rest.all isIdentifierPart

def camelCase (name : String) : String :=
  match cutAt '_' name.toList with
  | [] => ""
  | head :: rest =>
    String.ofList head ++ String.join (rest.map fun word => capitalize (String.ofList word))

end EndpointCatalog.Text
