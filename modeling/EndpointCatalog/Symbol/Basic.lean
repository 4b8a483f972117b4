import EndpointCatalog.Files.Path
import EndpointCatalog.Source.Scope

namespace EndpointCatalog.Symbol

open Files (Path)
open Source (Argument)

structure Marker where
  typeName : String
  args : List Argument
  keywords : List (String × Argument)
  line : Nat
  deriving Repr, Inhabited

structure Method where
  name : String
  markers : List Marker
  line : Nat
  isAsync : Bool
  deriving Repr, Inhabited

def Method.isPublic (method : Method) : Bool := method.name.toList.head? ≠ some '_'

def unresolvedBase : String := "<unresolved>"

-- There are parameters only if the class has a constructor of its own.
structure TypeDecl where
  qualname : String
  name : String
  home : String
  bases : List String
  markers : List Marker
  methods : List Method
  parameters : Option (List String)
  path : Option Path
  line : Nat
  deriving Repr, Inhabited

-- Inheritance follows the first base only.
def TypeDecl.base (type : TypeDecl) : Option String :=
  match type.bases with
  | [] => none
  | base :: _ => if base = unresolvedBase then none else some base

end EndpointCatalog.Symbol
