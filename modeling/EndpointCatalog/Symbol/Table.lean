import EndpointCatalog.Symbol.Basic

namespace EndpointCatalog.Symbol

open Files (Path)

structure Table where
  types : List TypeDecl
  aliases : List (String × String)
  stars : List (String × List String)
  skipped : List Path
  distinct : (types.map (·.qualname)).Nodup

namespace Table

def empty : Table := ⟨[], [], [], [], List.nodup_nil⟩

instance : Inhabited Table := ⟨empty⟩

def declared? (table : Table) (name : String) : Option TypeDecl :=
  table.types.find? (·.qualname = name)

def declares (table : Table) (name : String) : Bool := (table.declared? name).isSome

theorem declared_qualname {table : Table} (found : table.declared? name = some type) :
    type.qualname = name := by
  have matched := List.find?_some found
  simpa using matched

theorem declared_self {table : Table} (found : table.declared? name = some type) :
    table.declared? type.qualname = some type := by
  rw [declared_qualname found]
  exact found

theorem declared_mem {table : Table} (found : table.declared? name = some type) :
    type ∈ table.types :=
  List.mem_of_find?_eq_some found

theorem declares_iff {table : Table} :
    table.declares name = true ↔ name ∈ table.types.map (·.qualname) := by
  simp [declares, declared?]

theorem declared_of_mem {table : Table} (member : type ∈ table.types) :
    table.declared? type.qualname = some type := by
  obtain ⟨before, after, parts⟩ := List.append_of_mem member
  have distinct := table.distinct
  rw [parts, List.map_append, List.nodup_append] at distinct
  refine List.find?_eq_some_iff_append.mpr ⟨by simp, before, after, parts, ?_⟩
  intro earlier present
  have apart := distinct.2.2 earlier.qualname (List.mem_map_of_mem present) type.qualname (by simp)
  simpa using apart

def alias? (table : Table) (name : String) : Option String := Source.bound? name table.aliases

def starSources (table : Table) (home : String) : List String :=
  (Source.bound? home table.stars).getD []

theorem append_distinct {table : Table} {type : TypeDecl}
    (fresh : ¬ table.declares type.qualname = true) :
    ((table.types ++ [type]).map (·.qualname)).Nodup := by
  rw [declares_iff] at fresh
  rw [List.map_append, List.nodup_append]
  refine ⟨table.distinct, by simp, ?_⟩
  intro old member new added same
  rw [List.map_singleton, List.mem_singleton] at added
  rw [same, added] at member
  exact fresh member

def add (table : Table) (type : TypeDecl) : Table :=
  if taken : table.declares type.qualname then table
  else { table with types := table.types ++ [type], distinct := append_distinct taken }

def addAlias (table : Table) (name target : String) : Table :=
  if name = target ∨ (table.alias? name).isSome then table
  else { table with aliases := table.aliases ++ [(name, target)] }

-- A module is no source of its own and none is kept twice.
def addStar (table : Table) (home source : String) : Table :=
  let sources := table.starSources home
  let kept := if source = home ∨ source ∈ sources then sources else sources ++ [source]
  { table with stars := Source.rebind home kept table.stars }

def skip (table : Table) (path : Path) : Table := { table with skipped := table.skipped ++ [path] }

section

variable {table : Table} {type : TypeDecl}

@[simp]
theorem aliases_add : (table.add type).aliases = table.aliases := by
  unfold add
  split <;> rfl

@[simp]
theorem stars_add : (table.add type).stars = table.stars := by
  unfold add
  split <;> rfl

@[simp]
theorem types_addAlias : (table.addAlias name target).types = table.types := by
  unfold addAlias
  split <;> rfl

@[simp]
theorem stars_addAlias : (table.addAlias name target).stars = table.stars := by
  unfold addAlias
  split <;> rfl

@[simp]
theorem types_addStar : (table.addStar home source).types = table.types := rfl

@[simp]
theorem aliases_addStar : (table.addStar home source).aliases = table.aliases := rfl

theorem types_add : (table.add type).types =
    if table.declares type.qualname then table.types else table.types ++ [type] := by
  unfold add
  split <;> rfl

theorem declares_add :
    (table.add type).declares name = true ↔ table.declares name = true ∨ name = type.qualname := by
  unfold add
  by_cases taken : table.declares type.qualname = true
  · rw [dif_pos taken]
    constructor
    · exact .inl
    · rintro (found | rfl)
      · exact found
      · exact taken
  · rw [dif_neg taken]
    simp [declares_iff]

theorem alias_addAlias (apart : other ≠ name) :
    (table.addAlias name target).alias? other = table.alias? other := by
  unfold addAlias
  split
  · rfl
  · simp [alias?, Source.bound?, List.find?_append, Ne.symm apart]

theorem starSources_addStar :
    (table.addStar home source).starSources other =
      if home = other then
        if source = home ∨ source ∈ table.starSources home then table.starSources home
        else table.starSources home ++ [source]
      else table.starSources other := by
  by_cases same : home = other <;> simp [addStar, starSources, Source.bound_rebind, same]

end

end Table

end EndpointCatalog.Symbol
