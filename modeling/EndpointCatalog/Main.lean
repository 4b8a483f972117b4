import EndpointCatalog.Collection.Basic
import EndpointCatalog.Command.Run

namespace EndpointCatalog.Main

open Files (Path Tree Node)
open Command (Request Surroundings Outcome)
open Settings (Variable)

def placeText (place : List String) : String := "/" ++ String.intercalate "/" place

partial def snapshot (place : List String) : IO Node := do
  let path ← IO.FS.realPath (placeText place)
  if ← path.isDir then
    let entries ← path.readDir
    let nodes ← entries.toList.mapM fun entry => do
      return (entry.fileName, ← snapshot (place ++ [entry.fileName]))
    return .directory nodes
  else return .file (← IO.FS.readBinFile path).toList

def placeOf (here : List String) (path : Path) : List String :=
  path.parts.foldl (fun place part => if part = ".." then place.dropLast else place ++ [part])
    (if path.root = .relative then here else [])

def takeIn (isInput : Bool) (done : List String) : List String → Node → IO Node
  | [], top => return top
  | name :: rest, top => do
    let place := done ++ [name]
    let path ← try some <$> IO.FS.realPath (placeText place) catch _ => pure none
    match path with
    | none => return top
    | some path =>
      if !(← path.pathExists) then return top
      else if !(← path.isDir) || (isInput && rest.isEmpty) then
        return Node.put (← snapshot place) place top
      else
        let grown := if (top.find? place).isNone then Node.put (.directory []) place top else top
        takeIn isInput place rest grown

def surroundings (here : List String) (request : Option Request) : IO Tree := do
  let inputs := (request.map Request.inputs).getD []
  let outputs := (request.map Request.outputs).getD []
  let mut top : Node := .directory []
  top ← takeIn false [] here top
  for path in inputs do top ← takeIn true [] (placeOf here path) top
  for path in outputs do top ← takeIn false [] (placeOf here path) top
  return ⟨top, here⟩

def putBack (before after : Node) : IO Unit := do
  for place in after.places do
    match before.find? place, after.find? place with
    | none, some (.directory _) => IO.FS.createDirAll (placeText place)
    | some (.file old), some (.file new) =>
      if old ≠ new then IO.FS.writeBinFile (placeText place) (ByteArray.mk new.toArray)
    | none, some (.file new) => IO.FS.writeBinFile (placeText place) (ByteArray.mk new.toArray)
    | _, _ => pure ()

def environment : IO Environment := do
  let known : List Variable :=
    [.controllerBase, .routeMarker, .methodMarker, .baseUrl, .output, .logFile, .defaultVerb]
  known.filterMapM fun v => do
    return (← IO.getEnv v.name).map fun value => (v.name, value)

end EndpointCatalog.Main

open EndpointCatalog

def main (line : List String) : IO UInt32 := do
  let environment ← Main.environment
  let here := (Files.Path.ofString (← IO.currentDir).toString).parts
  let tree ← Main.surroundings here (Command.Request.ofArguments? environment line)
  let id := Collection.idOfBytes (← IO.getRandomBytes 16).toList
  let exporterId ← IO.rand 0 (Collection.exporterBound - 1)
  let outcome :=
    Command.run ⟨tree, fun _ => .unreachable "no network", id, exporterId⟩ environment line
  Main.putBack tree.top outcome.tree.top
  IO.print (Command.printed outcome.output)
  let failure := (outcome.failure.map Command.Failure.message).toList
  IO.eprint (Command.printed (outcome.complaints ++ failure))
  return outcome.status.toUInt32
