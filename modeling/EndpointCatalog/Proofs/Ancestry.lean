import EndpointCatalog.Symbol.Ancestry
import Mathlib.Data.List.Chain
import Mathlib.Logic.Relation

namespace EndpointCatalog.Symbol.Table

-- One step up: from a declared type to what its first base leads to.
def above? (table : Table) (name : String) : Option String :=
  (table.declared? name).bind fun type => type.base.map table.resolve

def Above (table : Table) (lower upper : String) : Prop := table.above? lower = some upper

def Reaches (table : Table) (lower upper : String) : Prop :=
  Relation.TransGen table.Above lower upper

-- There is no bound on the steps; a derivation is a walk that ends.
inductive Climb (table : Table) : List String → TypeDecl → List String → Prop where
  | top (rootless : type.base = none) : Climb table seen type []
  | again (next : type.base = some base) (old : table.resolve base ∈ seen) :
      Climb table seen type []
  | leave (next : type.base = some base) (new : table.resolve base ∉ seen)
      (outside : table.declared? (table.resolve base) = none) :
      Climb table seen type [table.resolve base]
  | climb (next : type.base = some base) (new : table.resolve base ∉ seen)
      (found : table.declared? (table.resolve base) = some above)
      (rest : Climb table (table.resolve base :: seen) above names) :
      Climb table seen type (table.resolve base :: names)

def unseen (table : Table) (seen : List String) : List String :=
  (table.types.map (·.qualname)).filter (· ∉ seen)

variable {table : Table}

theorem unseen_shrinks (found : table.declared? name = some type)
    (new : name ∉ seen) :
    (table.unseen (name :: seen)).length < (table.unseen seen).length := by
  have listed : name ∈ table.types.map (·.qualname) := by
    rw [← declares_iff, declares, found]
    rfl
  have present : name ∈ table.unseen seen := by
    simpa [unseen, new] using listed
  have narrowed : table.unseen (name :: seen) = (table.unseen seen).filter (· ≠ name) := by
    simp [unseen, List.filter_filter]
  rw [narrowed, List.length_filter_lt_length_iff_exists]
  exact ⟨name, present, by simp⟩

theorem ancestorsFrom_climbs (room : (table.unseen seen).length < left) :
    Climb table seen type (table.ancestorsFrom left seen type) := by
  induction left generalizing seen type with
  | zero => cases room
  | succ left ih =>
    unfold ancestorsFrom
    cases next : type.base with
    | none => exact .top next
    | some base =>
      by_cases old : table.resolve base ∈ seen
      · simpa [old] using Climb.again next old
      · cases found : table.declared? (table.resolve base) with
        | none => simpa [old, found] using Climb.leave next old found
        | some above =>
          have smaller := unseen_shrinks found old
          simpa [old, found] using Climb.climb next old found (ih (by omega))

theorem ancestors_climb (table : Table) (type : TypeDecl) :
    Climb table [type.qualname] type (table.ancestors type) := by
  apply ancestorsFrom_climbs
  have bound := List.length_filter_le (· ∉ [type.qualname]) (table.types.map (·.qualname))
  rw [List.length_map] at bound
  exact Nat.lt_succ_of_le bound

theorem above_declared (declared : table.declared? type.qualname = some type) :
    table.Above type.qualname upper ↔ type.base.map table.resolve = some upper := by
  simp [Above, above?, declared]

theorem above_undeclared (outside : table.declared? name = none) :
    ¬ table.Above name upper := by
  simp [Above, above?, outside]

def Stopped (table : Table) (passed : List String) (last : String) : Prop :=
  table.declared? last = none ∨
    (∃ top, table.declared? last = some top ∧ top.base = none) ∨
    ∃ next, table.Above last next ∧ next ∈ passed

theorem climb_unique (path : Climb table seen type names) (other : Climb table seen type others) :
    names = others := by
  induction path generalizing others with
  | top rootless => cases other <;> simp_all
  | again next old => cases other <;> simp_all
  | leave next new outside => cases other <;> simp_all
  | climb next new found rest ih =>
    cases other with
    | climb next' new' found' rest' =>
      rw [next] at next'
      cases next'
      rw [found] at found'
      cases found'
      rw [ih rest']
    | _ => simp_all

theorem climb_first (path : Climb table seen type names) :
    ∀ name ∈ names.head?, type.base.map table.resolve = some name := by
  cases path with
  | top | again => simp
  | leave next | climb next => simp [next]

theorem climb_fresh (path : Climb table seen type names) :
    names.Nodup ∧ ∀ name ∈ names, name ∉ seen := by
  induction path with
  | top | again => simp
  | leave next new outside => simpa using new
  | climb next new found rest ih =>
    obtain ⟨distinct, fresh⟩ := ih
    refine ⟨List.nodup_cons.mpr ⟨?_, distinct⟩, ?_⟩
    · intro repeated
      exact fresh _ repeated (by simp)
    · intro name member
      rcases List.mem_cons.mp member with rfl | later
      · exact new
      · intro old
        exact fresh name later (List.mem_cons_of_mem _ old)

theorem climb_linked (path : Climb table seen type names)
    (declared : table.declared? type.qualname = some type) :
    (type.qualname :: names).IsChain table.Above := by
  induction path with
  | top | again => exact .singleton _
  | leave next new outside =>
    exact .cons_cons ((above_declared declared).mpr (by simp [next])) (.singleton _)
  | climb next new found rest ih =>
    have linked := ih (declared_self found)
    rw [declared_qualname found] at linked
    exact .cons_cons ((above_declared declared).mpr (by simp [next])) linked

-- A link of a chain starts at a declared type, so that only the last name may be undeclared.
theorem linked_declared {names : List String} (linked : names.IsChain table.Above) :
    ∀ name ∈ names.dropLast, table.declares name = true := by
  induction linked with
  | nil | singleton => simp
  | @cons_cons lower upper rest step linked ih =>
    intro name member
    rcases List.mem_cons.mp member with rfl | later
    · cases found : table.declared? name with
      | none => exact absurd step (above_undeclared found)
      | some type => simp [declares, found]
    · exact ih name later

-- What has been passed or seen holds everything above it, the reason why stopping loses nothing.
theorem climb_closed (path : Climb table seen type names)
    (declared : table.declared? type.qualname = some type) :
    ∀ lower ∈ type.qualname :: names, ∀ upper, table.Above lower upper → upper ∈ names ++ seen := by
  induction path with
  | top rootless =>
    intro lower member upper step
    cases List.mem_singleton.mp member
    rw [above_declared declared, rootless] at step
    cases step
  | again next old =>
    intro lower member upper step
    cases List.mem_singleton.mp member
    rw [above_declared declared, next] at step
    cases step
    exact old
  | leave next new outside =>
    intro lower member upper step
    rcases List.mem_cons.mp member with rfl | last
    · rw [above_declared declared, next] at step
      cases step
      exact List.mem_cons_self
    · cases List.mem_singleton.mp last
      exact absurd step (above_undeclared outside)
  | climb next new found rest ih =>
    have closed := ih (declared_self found)
    rw [declared_qualname found] at closed
    intro lower member upper step
    rcases List.mem_cons.mp member with rfl | later
    · rw [above_declared declared, next] at step
      cases step
      exact List.mem_cons_self
    · exact List.perm_middle.mem_iff.mp (closed lower later upper step)

theorem climb_stopped (path : Climb table seen type names)
    (declared : table.declared? type.qualname = some type) :
    Stopped table (names ++ seen) (names.getLastD type.qualname) := by
  have member : names.getLastD type.qualname ∈ type.qualname :: names :=
    List.getLastD_mem_cons
  cases found : table.declared? (names.getLastD type.qualname) with
  | none => exact .inl found
  | some top =>
    cases next : top.base with
    | none => exact .inr (.inl ⟨top, found, next⟩)
    | some base =>
      have step : table.Above (names.getLastD type.qualname) (table.resolve base) := by
        rw [Above, above?, found, Option.bind_some, next, Option.map_some]
      exact .inr (.inr ⟨_, step, climb_closed path declared _ member _ step⟩)

theorem linked_reached {start : String} {names : List String}
    (linked : (start :: names).IsChain table.Above) :
    ∀ name ∈ names, table.Reaches start name := by
  induction names generalizing start with
  | nil => simp
  | cons first rest ih =>
    rw [List.isChain_cons_cons] at linked
    intro name member
    rcases List.mem_cons.mp member with rfl | later
    · exact .single linked.1
    · exact .head linked.1 (ih linked.2 name later)

theorem reached_passed (declared : table.declared? type.qualname = some type)
    (reached : table.Reaches type.qualname name) :
    name ∈ type.qualname :: table.ancestors type := by
  have inside : ∀ lower ∈ type.qualname :: table.ancestors type, ∀ upper,
      table.Above lower upper → upper ∈ type.qualname :: table.ancestors type := by
    intro lower member upper step
    have passed := climb_closed (ancestors_climb table type) declared lower member upper step
    exact (List.perm_append_singleton _ _).mem_iff.mp passed
  induction reached with
  | single step => exact inside _ List.mem_cons_self _ step
  | tail earlier step ih => exact inside _ ih _ step

theorem mem_ancestors (declared : table.declared? type.qualname = some type) :
    name ∈ table.ancestors type ↔ name ≠ type.qualname ∧ table.Reaches type.qualname name := by
  have path := ancestors_climb table type
  constructor
  · intro member
    refine ⟨?_, linked_reached (climb_linked path declared) name member⟩
    rintro rfl
    exact (climb_fresh path).2 _ member List.mem_cons_self
  · rintro ⟨other, reached⟩
    exact (List.mem_cons.mp (reached_passed declared reached)).resolve_left other

theorem get_declared (found : table.get? name = some type) :
    table.declared? type.qualname = some type ∧ table.resolve name = type.qualname :=
  ⟨declared_self found, (declared_qualname found).symm⟩

theorem ancestorsOf_found (found : table.get? name = some type) :
    table.ancestorsOf name = table.ancestors type := by
  simp [ancestorsOf, found]

theorem inherits_reaches (declared : table.declared? type.qualname = some type) :
    table.inherits base type = true ↔
      table.resolve base ≠ type.qualname ∧ table.Reaches type.qualname (table.resolve base) := by
  rw [inherits, List.contains_iff_mem, mem_ancestors declared]

theorem inheritsFrom_found (found : table.get? name = some type) :
    table.inheritsFrom base name = table.inherits base type := by
  rw [inheritsFrom, ancestorsOf_found found, inherits]

theorem unreached (outside : table.declared? lower = none) : ¬ table.Reaches lower upper := by
  intro reached
  obtain ⟨next, step, -⟩ := Relation.TransGen.head'_iff.mp reached
  exact above_undeclared outside step

theorem inheritsFrom_reaches :
    table.inheritsFrom base name = true ↔
      table.resolve base ≠ table.resolve name ∧
        table.Reaches (table.resolve name) (table.resolve base) := by
  cases found : table.get? name with
  | none =>
    have nothing : table.inheritsFrom base name = false := by
      simp [inheritsFrom, ancestorsOf, found]
    rw [nothing]
    constructor
    · intro never
      cases never
    · rintro ⟨-, reached⟩
      exact absurd reached (unreached found)
  | some type =>
    obtain ⟨declared, same⟩ := get_declared found
    rw [inheritsFrom_found found, inherits_reaches declared, same]

-- What a finished walk from a declared type looks like.
structure Walk (table : Table) (type : TypeDecl) (names : List String) : Prop where
  ends : Climb table [type.qualname] type names
  first : ∀ name ∈ names.head?, type.base.map table.resolve = some name
  linked : names.IsChain table.Above
  distinct : names.Nodup
  proper : type.qualname ∉ names
  declared : ∀ name ∈ names.dropLast, table.declares name = true
  stopped : Stopped table (type.qualname :: names) (names.getLastD type.qualname)

theorem ancestors_walk (declared : table.declared? type.qualname = some type) :
    Walk table type (table.ancestors type) := by
  have path := ancestors_climb table type
  have linked := climb_linked path declared
  obtain ⟨distinct, fresh⟩ := climb_fresh path
  have stopped := climb_stopped path declared
  refine ⟨path, climb_first path, linked.tail, distinct, ?_, linked_declared linked.tail, ?_⟩
  · intro member
    exact fresh _ member List.mem_cons_self
  · rcases stopped with outside | rootless | ⟨upper, step, old⟩
    · exact .inl outside
    · exact .inr (.inl rootless)
    · have passed := (List.perm_append_singleton _ _).mem_iff.mp old
      exact .inr (.inr ⟨upper, step, passed⟩)

-- A walk starts at an entry of the table or at a name that leads to one; both go the same way.
theorem ancestors_exact (table : Table) :
    (∀ type, table.declared? type.qualname = some type →
      Walk table type (table.ancestors type) ∧
      ∀ base, table.inherits base type = true ↔
        table.resolve base ≠ type.qualname ∧ table.Reaches type.qualname (table.resolve base)) ∧
    (∀ name type, table.get? name = some type →
      Walk table type (table.ancestorsOf name) ∧
      ∀ base, table.inheritsFrom base name = true ↔
        table.resolve base ≠ type.qualname ∧ table.Reaches type.qualname (table.resolve base)) ∧
    ∀ name, table.inheritsFrom name name = false := by
  refine ⟨?_, ?_, ?_⟩
  · intro type declared
    exact ⟨ancestors_walk declared, fun base => inherits_reaches declared⟩
  · intro name type found
    obtain ⟨declared, same⟩ := get_declared found
    refine ⟨?_, ?_⟩
    · rw [ancestorsOf_found found]
      exact ancestors_walk declared
    · intro base
      rw [inheritsFrom_found found]
      exact inherits_reaches declared
  · intro name
    by_contra above
    exact (inheritsFrom_reaches.mp (by simpa using above)).1 rfl

def bareType (qualname : String) (bases : List String) : TypeDecl :=
  { qualname := qualname, name := Text.lastName qualname, home := Text.outerName qualname,
    bases := bases, markers := [], methods := [], parameters := none, path := none, line := 0 }

def cyclic : Table :=
  { empty with
    types := [bareType "m.A" ["m.B"], bareType "m.B" ["m.A"], bareType "m.C" ["p.B"]]
    aliases := [("p.B", "m.B"), ("p.C", "m.C")]
    distinct := by decide }

theorem cyclic_walks :
    cyclic.get? "p.C" = some (bareType "m.C" ["p.B"]) ∧
    cyclic.ancestorsOf "p.C" = ["m.B", "m.A"] ∧
    Walk cyclic (bareType "m.C" ["p.B"]) (cyclic.ancestorsOf "p.C") ∧
    Walk cyclic (bareType "m.A" ["m.B"]) (cyclic.ancestors (bareType "m.A" ["m.B"])) ∧
    cyclic.inheritsFrom "p.C" "m.C" = false :=
  ⟨rfl, by decide, ((ancestors_exact cyclic).2.1 "p.C" _ rfl).1,
    ((ancestors_exact cyclic).1 (bareType "m.A" ["m.B"]) rfl).1, by decide⟩

end EndpointCatalog.Symbol.Table
