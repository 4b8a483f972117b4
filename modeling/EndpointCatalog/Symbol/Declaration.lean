import EndpointCatalog.Symbol.Table

namespace EndpointCatalog.Symbol

open Files (Path)
open Source (Scope Stmt Expr EvalError Decorator Argument Parameters rebind)
open Text (qualify)

-- A decorator that names no type is no marker; of keywords with one name the last counts.
def Marker.ofDecorator (scope : Scope) (decorator : Decorator) : Except EvalError (Option Marker) :=
  match decorator.expr with
  | .call function args keywords =>
    match scope.resolve function with
    | none => return none
    | some name => do
      let args ← args.mapM scope.literal
      let keywords ← keywords.foldlM (fun done (key, value) =>
        match key with
        | some key => do return rebind key (← scope.literal value) done
        | none => return done) []
      return some ⟨name, args, keywords, decorator.line⟩
  | expr => return (scope.resolve expr).map fun name => ⟨name, [], [], decorator.line⟩

def markersOf (scope : Scope) (decorators : List Decorator) : Except EvalError (List Marker) := do
  return (← decorators.mapM (Marker.ofDecorator scope)).filterMap id

def constructorParameters (parameters : Parameters) : List String :=
  (parameters.positionalOnly ++ parameters.positional).drop 1

def methodsOf (scope : Scope) : List Stmt → Except EvalError (List Method × Option (List String))
  | [] => return ([], none)
  | .functionDef line isAsync name parameters decorators _ :: rest => do
    let markers ← markersOf scope decorators
    let (methods, later) ← methodsOf scope rest
    let own := if name = "__init__" then some (constructorParameters parameters) else none
    return (⟨name, markers, line, isAsync⟩ :: methods, later.or own)
  | _ :: rest => methodsOf scope rest

def baseName (scope : Scope) (base : Expr) : String :=
  match scope.resolve base with
  | some name => if name = "" then unresolvedBase else name
  | none => unresolvedBase

def TypeDecl.ofClass (scope : Scope) (path : Path) (outer : String) (line : Nat) (name : String)
    (bases : List Expr) (decorators : List Decorator) (body : List Stmt) :
    Except EvalError TypeDecl := do
  let markers ← markersOf scope decorators
  let (methods, parameters) ← methodsOf scope body
  return { qualname := qualify outer name, name := name, home := scope.home,
           bases := bases.map (baseName scope), markers := markers, methods := methods,
           parameters := parameters, path := some path, line := line }

-- A class whose decorators cannot be computed is an error in its place.
def declarations (scope : Scope) (path : Path) (outer : String) :
    List Stmt → List (Except EvalError TypeDecl)
  | [] => []
  | .classDef line name bases decorators body :: rest =>
    TypeDecl.ofClass scope path outer line name bases decorators body ::
      declarations scope path (qualify outer name) body ++ declarations scope path outer rest
  | _ :: rest => declarations scope path outer rest

def Table.addAll (table : Table) : List (Except EvalError TypeDecl) → Table × Option EvalError
  | [] => (table, none)
  | .ok type :: rest => (table.add type).addAll rest
  | .error e :: _ => (table, some e)

end EndpointCatalog.Symbol
