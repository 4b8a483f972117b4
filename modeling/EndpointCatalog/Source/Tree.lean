import EndpointCatalog.Source.Value

namespace EndpointCatalog.Source

inductive UnaryOp where
  | plus
  | minus
  | invert
  | not
  deriving DecidableEq, Repr

inductive BinaryOp where
  | add
  | sub
  | other
  deriving DecidableEq, Repr

inductive Expr where
  | name (id : String)
  | constant (value : Atom)
  | attribute (value : Expr) (attr : String)
  | subscript (value index : Expr)
  | call (function : Expr) (args : List Expr) (keywords : List (Option String × Expr))
  | starred (value : Expr)
  | tuple (items : List Expr)
  | list (items : List Expr)
  | set (items : List Expr)
  | dict (entries : List (Option Expr × Expr))
  | unary (op : UnaryOp) (operand : Expr)
  | binary (op : BinaryOp) (left right : Expr)
  | named (target : String) (value : Expr)
  | computed
  deriving Repr, Inhabited

structure ImportedName where
  name : String
  localName : Option String
  deriving DecidableEq, Repr

-- There are as many packages to go up as there are dots.
structure ImportSource where
  path : Option String
  level : Nat
  deriving DecidableEq, Repr

structure Parameters where
  positionalOnly : List String
  positional : List String
  rest : Option String
  keywordOnly : List String
  keywordRest : Option String
  deriving DecidableEq, Repr, Inhabited

structure Decorator where
  expr : Expr
  line : Nat
  deriving Repr

inductive Stmt where
  | importModules (names : List ImportedName)
  | importFrom (source : ImportSource) (names : List ImportedName)
  | importAll (source : ImportSource)
  | classDef (line : Nat) (name : String) (bases : List Expr) (decorators : List Decorator)
      (body : List Stmt)
  | functionDef (line : Nat) (isAsync : Bool) (name : String) (parameters : Parameters)
      (decorators : List Decorator) (body : List Stmt)
  | assign (targets : List Expr) (value : Expr)
  | annotated (target : Expr) (value : Option Expr)
  | augmented (target value : Expr)
  | delete (targets : List Expr)
  | expr (value : Expr)
  | conditional (test : Expr) (body orelse : List Stmt)
  | attempt (body : List Stmt) (handlers : List (Option String × List Stmt))
      (orelse final : List Stmt)
  | attemptGroup (body : List Stmt) (handlers : List (Option String × List Stmt))
      (orelse final : List Stmt)
  | loop (target : Option Expr) (body orelse : List Stmt)
  | context (targets : List Expr) (body : List Stmt)
  | choice (cases : List (List String × List Stmt))
  | other
  deriving Repr, Inhabited

end EndpointCatalog.Source
