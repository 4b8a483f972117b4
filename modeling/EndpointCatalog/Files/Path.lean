import EndpointCatalog.Text.CodeRanges

namespace EndpointCatalog.Files

-- Two leading separators are kept apart from one.
inductive Root where
  | relative
  | absolute
  | doubled
  deriving DecidableEq, Repr, Inhabited

structure Path where
  root : Root
  parts : List String
  deriving DecidableEq, Repr, Inhabited

namespace Path

def ofString (s : String) : Path :=
  let pieces := Text.cutAt '/' s.toList
  let leading := (s.toList.takeWhile (· = '/')).length
  let root : Root := if leading = 0 then .relative else if leading = 2 then .doubled else .absolute
  ⟨root, (pieces.filter fun piece => piece ≠ [] && piece ≠ ['.']).map String.ofList⟩

def rootText : Root → String
  | .relative => ""
  | .absolute => "/"
  | .doubled => "//"

def text (p : Path) : String :=
  if p.root = .relative ∧ p.parts = [] then "."
  else rootText p.root ++ String.intercalate "/" p.parts

-- What has no parts is its own parent.
def parent (p : Path) : Path := { p with parts := p.parts.dropLast }

def join (p : Path) (parts : List String) : Path := { p with parts := p.parts ++ parts }

def name (p : Path) : String := p.parts.getLastD ""

-- A dot in front or at the end begins no extension.
def stemOf (name : String) : String :=
  let chars := name.toList
  let extension := (chars.reverse.takeWhile (· ≠ '.')).length
  if extension < chars.length - 1 && extension > 0 then
    String.ofList (chars.take (chars.length - extension - 1))
  else name

def stem (p : Path) : String := stemOf p.name

end Path

end EndpointCatalog.Files
