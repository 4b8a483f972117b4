import EndpointCatalog.Files.Tree
import EndpointCatalog.Source.Statement
import EndpointCatalog.Symbol.Declaration
import EndpointCatalog.Text.Names
import EndpointCatalog.Text.Utf8

namespace EndpointCatalog.Symbol

open Files (Path Tree FileError)
open Source (Scope EvalError)
open Text (qualify joinDots partsLe)

inductive IntakeError where
  | file (e : FileError)
  | wholeTooLarge
  deriving DecidableEq, Repr

def IntakeError.message : IntakeError → String
  | .file e => e.message
  | .wholeTooLarge => "int too large to convert to float"

abbrev Intake := Table × Option IntakeError

def withoutEnding (name : String) : String :=
  if ".py".toList.isSuffixOf name.toList then String.ofList (name.toList.take (name.length - 3))
  else name

-- A package file stands for its directory. There must be a path.
def homeOf (parts : List String) : Option String :=
  match parts.getLast? with
  | none => none
  | some last =>
    let stem := withoutEnding last
    some (joinDots (if stem = "__init__" then parts.dropLast else parts.dropLast ++ [stem]))

def statementsOf? (content : List UInt8) : Option (List Source.Stmt) :=
  match Text.decodeUtf8 content with
  | .error _ => none
  | .ok text => Source.parse? (Text.unifyLineEnds text)

def Table.addModule (table : Table) (path : Path) (home : String) (body : List Source.Stmt) :
    Intake :=
  match Scope.ofModule home (path.name = "__init__.py") body with
  | .error _ => (table, some .wholeTooLarge)
  | .ok scope =>
    let table :=
      scope.imports.foldl
        (fun table (name, target) => table.addAlias (qualify home name) target) table
    let table := scope.starSources.foldl (fun table source => table.addStar home source) table
    let (table, failure) := table.addAll (declarations scope path home body)
    (table, failure.map fun _ => .wholeTooLarge)

def Table.takeFile (table : Table) (tree : Tree) (path : Path) (home : String) : Intake :=
  match tree.read path with
  | .error e => (table, some (.file e))
  | .ok content =>
    match statementsOf? content with
    | none => (table.skip path, none)
    | some body => table.addModule path home body

def Table.takeEach {α : Type} (take : Table → α → Intake) (table : Table) : List α → Intake
  | [] => (table, none)
  | item :: rest =>
    match take table item with
    | (table, none) => table.takeEach take rest
    | ended => ended

def ignoredDirectories : List String :=
  [".git", ".venv", "venv", "__pycache__", "node_modules", ".tox"]

-- Only directories are ignored by their names.
def isSource (parts : List String) : Bool :=
  ".py".toList.isSuffixOf (parts.getLastD "").toList &&
    !parts.dropLast.any ignoredDirectories.contains

def sourcesBelow (root : Files.Node) : List (List String) :=
  (root.places.filter isSource).mergeSort partsLe

def packageParts (tree : Tree) (root : Path) : List String :=
  if tree.has (root.join ["__init__.py"]) then [tree.directoryName root] else []

-- A root that does not exist adds nothing.
def Table.takeRoot (table : Table) (tree : Tree) (root : Path) : Intake :=
  match tree.node root with
  | .error _ => (table, none)
  | .ok (.file _) => table.takeFile tree root root.stem
  | .ok directory =>
    let outer := packageParts tree root
    table.takeEach (fun table parts =>
      table.takeFile tree (root.join parts) ((homeOf (outer ++ parts)).getD ""))
      (sourcesBelow directory)

def Table.takeRoots (table : Table) (tree : Tree) (roots : List Path) : Intake :=
  table.takeEach (fun table root => table.takeRoot tree root) roots

end EndpointCatalog.Symbol
