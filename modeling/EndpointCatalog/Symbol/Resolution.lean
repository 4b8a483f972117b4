import EndpointCatalog.Symbol.Table

namespace EndpointCatalog.Symbol.Table

open Text (components joinDots qualify outerName lastName)

-- The bound of a resolution, and the depth to which star imports are searched.
def hopLimit : Nat := 32

def prefixHop (table : Table) (parts : List String) : Nat → Option String
  | 0 => none
  | count + 1 =>
    match table.alias? (joinDots (parts.take (count + 1))) with
    | some target => some (qualify target (joinDots (parts.drop (count + 1))))
    | none => table.prefixHop parts count

-- In each source its own name is tried before the sources of the source.
def starHop (table : Table) : Nat → String → Option String
  | 0, _ => none
  | depth + 1, name =>
    let home := outerName name
    if home = "" then none
    else (table.starSources home).findSome? fun source =>
      let candidate := qualify source (lastName name)
      if table.declares candidate || (table.alias? candidate).isSome then some candidate
      else table.starHop depth candidate

def hop (table : Table) (name : String) : Option String :=
  match table.alias? name with
  | some target => some target
  | none =>
    let parts := components name
    match table.prefixHop parts (parts.length - 1) with
    | some next => some next
    | none => table.starHop hopLimit name

def resolveFrom (table : Table) : Nat → List String → String → String
  | 0, _, name => name
  | left + 1, seen, name =>
    if table.declares name || seen.contains name then name
    else match table.hop name with
      | none => name
      | some next => table.resolveFrom left (name :: seen) next

def resolve (table : Table) (name : String) : String := table.resolveFrom hopLimit [] name

def get? (table : Table) (name : String) : Option TypeDecl := table.declared? (table.resolve name)

def contains (table : Table) (name : String) : Bool := (table.get? name).isSome

end EndpointCatalog.Symbol.Table
