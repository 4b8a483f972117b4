import EndpointCatalog.Source.Evaluate
import EndpointCatalog.Text.Names

namespace EndpointCatalog.Source

open Text (qualify components joinDots firstName outerName)

mutual

def topLevel : List Stmt → List Stmt
  | [] => []
  | .conditional _ body orelse :: rest => topLevel body ++ topLevel orelse ++ topLevel rest
  | .attempt body handlers orelse final :: rest =>
    topLevel body ++ topLevelOfHandlers handlers ++ topLevel orelse ++ topLevel final ++
      topLevel rest
  | statement :: rest => statement :: topLevel rest

def topLevelOfHandlers : List (Option String × List Stmt) → List Stmt
  | [] => []
  | (_, body) :: rest => topLevel body ++ topLevelOfHandlers rest

end

inductive Argument where
  | value (value : Value)
  | unknown
  deriving Repr, Inhabited

def Argument.text? : Argument → Option Text.Codes
  | .value v => v.text?
  | .unknown => none

-- A name that is bound already keeps its place and takes the new value.
def rebind {α : Type} (name : String) (value : α) : List (String × α) → List (String × α)
  | [] => [(name, value)]
  | (key, old) :: rest =>
    if key = name then (key, value) :: rest else (key, old) :: rebind name value rest

def bound? {α : Type} (name : String) (bindings : List (String × α)) : Option α :=
  (bindings.find? (·.1 = name)).map (·.2)

theorem bound_rebind {α : Type} {value : α} {bindings : List (String × α)} :
    bound? name (rebind key value bindings) =
      if key = name then some value else bound? name bindings := by
  induction bindings with
  | nil => by_cases same : key = name <;> simp [rebind, bound?, same]
  | cons entry rest ih =>
    obtain ⟨own, old⟩ := entry
    unfold rebind
    by_cases taken : own = key
    · rw [if_pos taken]
      by_cases same : key = name <;> simp [bound?, taken, same]
    · rw [if_neg taken]
      by_cases found : own = name
      · have other : key ≠ name := fun same => taken (found.trans same.symm)
        simp [bound?, found, other]
      · simpa [bound?, found] using ih

structure Scope where
  home : String
  package : String
  imports : List (String × String)
  classes : List String
  constants : List (String × Value)
  starSources : List String

namespace Scope

-- A package is its own package; any other module is in the package around it.
def empty (home : String) (isPackage : Bool) : Scope :=
  ⟨home, if isPackage then home else outerName home, [], [], [], []⟩

-- Each dot but the first leaves one package.
def absolute (scope : Scope) (source : ImportSource) : String :=
  if source.level = 0 then source.path.getD ""
  else
    let parts := if scope.package = "" then [] else components scope.package
    let base := joinDots (parts.take (parts.length - (source.level - 1)))
    match source.path with
    | some path => if path = "" then base else qualify base path
    | none => base

def addImport (scope : Scope) (name target : String) : Scope :=
  { scope with imports := rebind name target scope.imports }

-- What is no literal leaves the name as it was.
def remember (scope : Scope) (target value : Expr) : Except EvalError Scope :=
  match target with
  | .name id =>
    match value.evaluate with
    | .ok v => .ok { scope with constants := rebind id v scope.constants }
    | .error .notLiteral => .ok scope
    | .error .wholeTooLarge => .error .wholeTooLarge
  | _ => .ok scope

theorem remember_constants {scope next : Scope} (remembered : scope.remember target value = .ok next) :
    ∃ constants, next = { scope with constants := constants } := by
  unfold remember at remembered
  split at remembered
  · split at remembered
    · cases remembered
      exact ⟨_, rfl⟩
    · cases remembered
      exact ⟨_, rfl⟩
    · cases remembered
  · cases remembered
    exact ⟨_, rfl⟩

def step (scope : Scope) : Stmt → Except EvalError Scope
  | .importModules names => .ok <| names.foldl (fun scope imported =>
      match imported.localName with
      | some name => scope.addImport name imported.name
      | none => scope.addImport (firstName imported.name) (firstName imported.name)) scope
  | .importFrom source names => .ok <| names.foldl (fun scope imported =>
      scope.addImport (imported.localName.getD imported.name)
        (qualify (scope.absolute source) imported.name)) scope
  | .importAll source =>
    .ok { scope with starSources := scope.starSources ++ [scope.absolute source] }
  | .classDef _ name _ _ _ =>
    .ok (if scope.classes.contains name then scope
      else { scope with classes := scope.classes ++ [name] })
  | .assign [target] value => scope.remember target value
  | .annotated target (some value) => scope.remember target value
  | _ => .ok scope

def ofModule (home : String) (isPackage : Bool) (body : List Stmt) : Except EvalError Scope :=
  (topLevel body).foldlM step (empty home isPackage)

-- A class of the module comes before an import; a name that a star import may bind is looked for in
-- the module itself later.
def resolve (scope : Scope) : Expr → Option String
  | .name id =>
    if scope.classes.contains id then some (qualify scope.home id)
    else match bound? id scope.imports with
    | some target => some target
    | none => some (if scope.starSources.isEmpty then id else qualify scope.home id)
  | .attribute value attr =>
    match scope.resolve value with
    | some head => if head = "" then none else some (head ++ "." ++ attr)
    | none => none
  | .subscript value _ => scope.resolve value
  | _ => none

def literal (scope : Scope) (expr : Expr) : Except EvalError Argument :=
  match expr.evaluate with
  | .ok value => .ok (.value value)
  | .error .wholeTooLarge => .error .wholeTooLarge
  | .error .notLiteral =>
    match expr with
    | .name id =>
      match bound? id scope.constants with
      | some value => .ok (.value value)
      | none => .ok .unknown
    | _ => .ok .unknown

end Scope

end EndpointCatalog.Source
