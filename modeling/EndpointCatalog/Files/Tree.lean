import EndpointCatalog.Files.Path
import EndpointCatalog.Text.Printable

namespace EndpointCatalog.Files

open Text (Codes)

inductive Node where
  | file (content : List UInt8)
  | directory (entries : List (String × Node))
  deriving Inhabited

inductive Cause where
  | missing
  | occupied
  | notDirectory
  | isDirectory
  | nameTooLong
  | nullByte
  deriving DecidableEq, Repr

structure FileError where
  cause : Cause
  path : Path
  deriving DecidableEq, Repr

def Cause.text : Cause → String
  | .missing => "[Errno 2] No such file or directory"
  | .occupied => "[Errno 17] File exists"
  | .notDirectory => "[Errno 20] Not a directory"
  | .isDirectory => "[Errno 21] Is a directory"
  | .nameTooLong => "[Errno 36] File name too long"
  | .nullByte => "embedded null byte"

-- A path that holds a zero does not get as far as the system.
def Cause.ofSystem (cause : Cause) : Bool := cause ≠ .nullByte

def FileError.message (e : FileError) : String :=
  if e.cause.ofSystem then e.cause.text ++ ": " ++ Text.quoted e.path.text else e.cause.text

inductive WriteError where
  | file (e : FileError)
  | encoding (e : Text.EncodeError)
  deriving DecidableEq, Repr

def WriteError.message : WriteError → String
  | .file e => e.message
  | .encoding e => e.message

def WriteError.ofSystem? : WriteError → Option FileError
  | .file e => if e.cause.ofSystem then some e else none
  | .encoding _ => none

def refusal? (path : Path) : Option Cause :=
  if '\x00' ∈ path.text.toList then some .nullByte
  else if 4096 ≤ path.text.utf8ByteSize then some .nameTooLong
  else none

-- Only shorter names can be given.
def absence (name : String) : Cause := if 255 < name.utf8ByteSize then .nameTooLong else .missing

namespace Node

def lookup (name : String) : List (String × Node) → Option Node
  | [] => none
  | (key, node) :: rest => if key = name then some node else lookup name rest

def find? : Node → List String → Option Node
  | node, [] => some node
  | .file _, _ :: _ => none
  | .directory entries, name :: rest =>
    match lookup name entries with
    | some node => node.find? rest
    | none => none

def putEntry (name : String) (node : Node) : List (String × Node) → List (String × Node)
  | [] => [(name, node)]
  | (key, old) :: rest =>
    if key = name then (key, node) :: rest else (key, old) :: putEntry name node rest

-- A place below no directory changes nothing.
def put (node : Node) : List String → Node → Node
  | [], _ => node
  | _ :: _, .file content => .file content
  | name :: rest, .directory entries =>
    match lookup name entries with
    | some below => .directory (putEntry name (put node rest below) entries)
    | none => if rest.isEmpty then .directory (putEntry name node entries) else .directory entries

mutual

def places : Node → List (List String)
  | .file _ => []
  | .directory entries => entryPlaces entries

def entryPlaces : List (String × Node) → List (List String)
  | [] => []
  | (name, node) :: rest => [name] :: (places node).map (name :: ·) ++ entryPlaces rest

end

end Node

structure Tree where
  top : Node
  here : List String

namespace Tree

-- What is walked from must be a directory.
def step (tree : Tree) (place : List String) (part : String) : Except Cause (List String) :=
  match tree.top.find? place with
  | none => .error .missing
  | some (.file _) => .error .notDirectory
  | some (.directory entries) =>
    if part = ".." then .ok place.dropLast
    else match Node.lookup part entries with
      | some _ => .ok (place ++ [part])
      | none => .error (absence part)

def start (tree : Tree) (root : Root) : List String :=
  if root = .relative then tree.here else []

def locate (tree : Tree) (path : Path) : Except Cause (List String) :=
  path.parts.foldlM (tree.step) (tree.start path.root)

def node (tree : Tree) (path : Path) : Except Cause Node := do
  let place ← tree.locate path
  match tree.top.find? place with
  | some node => return node
  | none => throw .missing

def has (tree : Tree) (path : Path) : Bool := (tree.node path).toOption.isSome

def isDirectory (tree : Tree) (path : Path) : Bool :=
  match tree.node path with
  | .ok (.directory _) => true
  | _ => false

def read (tree : Tree) (path : Path) : Except FileError (List UInt8) :=
  match tree.node path with
  | .ok (.file content) => .ok content
  | .ok (.directory _) => .error ⟨.isDirectory, path⟩
  | .error cause => .error ⟨cause, path⟩

-- What ends in a step up exists anyway.
def target (tree : Tree) (path : Path) : Except Cause (List String) := do
  let place ← tree.locate path.parent
  match tree.top.find? place with
  | some (.directory _) => return place ++ [path.name]
  | some (.file _) => throw .notDirectory
  | none => throw .missing

def fill (tree : Tree) (place : List String) (node : Node) : Tree :=
  { tree with top := Node.put node place tree.top }

def makeDirectory (tree : Tree) (path : Path) : Except Cause Tree := do
  if let some cause := refusal? path then throw cause
  if path.parts = [] then throw .occupied
  let place ← tree.target path
  if path.name = ".." then throw .occupied
  match tree.top.find? place with
  | some _ => throw .occupied
  | none =>
    if absence path.name = .missing then return tree.fill place (.directory [])
    else throw (absence path.name)

def settle (tree : Tree) (path : Path) (cause : Cause) : Tree × Option FileError :=
  if cause ≠ .missing ∧ refusal? path = none ∧ tree.isDirectory path then (tree, none)
  else (tree, some ⟨cause, path⟩)

def makeDirectories (tree : Tree) (path : Path) : Tree × Option FileError :=
  match tree.makeDirectory path with
  | .ok made => (made, none)
  | .error .missing =>
    if h : path.parts = [] then (tree, some ⟨.missing, path⟩)
    else
      have : path.parent.parts.length < path.parts.length := by
        have := List.length_pos_iff.mpr h
        simp [Path.parent]
        omega
      match tree.makeDirectories path.parent with
      | (grown, some e) => (grown, some e)
      | (grown, none) =>
        match grown.makeDirectory path with
        | .ok made => (made, none)
        | .error cause => grown.settle path cause
  | .error cause => tree.settle path cause
termination_by path.parts.length

-- The file is empty from then on.
def openEmpty (tree : Tree) (path : Path) : Except Cause (List String) := do
  if let some cause := refusal? path then throw cause
  if path.parts = [] then throw .isDirectory
  let place ← tree.target path
  if path.name = ".." then throw .isDirectory
  match tree.top.find? place with
  | some (.directory _) => throw .isDirectory
  | some (.file _) => return place
  | none => if absence path.name = .missing then return place else throw (absence path.name)

-- The old content is gone before the new one is encoded.
def overwrite (tree : Tree) (path : Path) (content : Codes) : Tree × Option WriteError :=
  match tree.openEmpty path with
  | .error cause => (tree, some (.file ⟨cause, path⟩))
  | .ok place =>
    match Text.encode content with
    | .error e => (tree.fill place (.file []), some (.encoding e))
    | .ok bytes => (tree.fill place (.file bytes), none)

def write (tree : Tree) (path : Path) (content : Codes) : Tree × Option WriteError :=
  match tree.makeDirectories path.parent with
  | (grown, some e) => (grown, some (.file e))
  | (grown, none) => grown.overwrite path content

def directoryName (tree : Tree) (path : Path) : String :=
  match tree.locate path with
  | .ok place => place.getLastD ""
  | .error _ => path.name

end Tree

end EndpointCatalog.Files
