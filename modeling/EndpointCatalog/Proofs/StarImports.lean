import EndpointCatalog.Proofs.DottedNames
import EndpointCatalog.Proofs.Resolution

namespace EndpointCatalog.Symbol.Table

open Text (components joinDots qualify outerName lastName)

variable {table : Table}

def knows (table : Table) (name : String) : Bool :=
  table.declares name || (table.alias? name).isSome

-- Nothing is found through the sources in front of the one in question; `steps` counts the star
-- imports on the way.
inductive Finds (table : Table) : Nat → String → String → Nat → Prop where
  | own (inside : outerName name ≠ "")
      (sources : table.starSources (outerName name) = before ++ source :: after)
      (passed : ∀ earlier ∈ before, table.knows (qualify earlier (lastName name)) = false ∧
        table.starHop limit (qualify earlier (lastName name)) = none)
      (known : table.knows (qualify source (lastName name)) = true) :
      Finds table (limit + 1) name (qualify source (lastName name)) 1
  | nested (inside : outerName name ≠ "")
      (sources : table.starSources (outerName name) = before ++ source :: after)
      (passed : ∀ earlier ∈ before, table.knows (qualify earlier (lastName name)) = false ∧
        table.starHop limit (qualify earlier (lastName name)) = none)
      (unknown : table.knows (qualify source (lastName name)) = false)
      (found : Finds table limit (qualify source (lastName name)) next steps) :
      Finds table (limit + 1) name next (steps + 1)

def tries (table : Table) (limit : Nat) (candidate : String) : Option String :=
  if table.knows candidate then some candidate else table.starHop limit candidate

theorem starHop_succ (inside : outerName name ≠ "") :
    table.starHop (limit + 1) name = (table.starSources (outerName name)).findSome? fun source =>
      table.tries limit (qualify source (lastName name)) := by
  simp only [starHop, if_neg inside]
  rfl

theorem starHop_outermost (outside : outerName name = "") : table.starHop limit name = none := by
  cases limit with
  | zero => rfl
  | succ limit => simp [starHop, outside]

theorem tries_none : table.tries limit candidate = none ↔
    table.knows candidate = false ∧ table.starHop limit candidate = none := by
  unfold tries
  cases table.knows candidate <;> simp

theorem starHop_finds :
    table.starHop limit name = some next ↔ ∃ steps, Finds table limit name next steps := by
  induction limit generalizing name next with
  | zero =>
    constructor
    · intro found
      cases found
    · rintro ⟨steps, found⟩
      cases found
  | succ limit ih =>
    by_cases outside : outerName name = ""
    · rw [starHop_outermost outside]
      constructor
      · intro found
        cases found
      · rintro ⟨steps, found⟩
        cases found with
        | own inside | nested inside => exact absurd outside inside
    · rw [starHop_succ outside, List.findSome?_eq_some_iff]
      constructor
      · rintro ⟨before, source, after, sources, hit, passed⟩
        have passed := fun earlier member => tries_none.mp (passed earlier member)
        unfold tries at hit
        cases known : table.knows (qualify source (lastName name)) with
        | true =>
          rw [known, if_pos rfl] at hit
          cases hit
          exact ⟨1, .own outside sources passed known⟩
        | false =>
          simp only [known] at hit
          obtain ⟨steps, found⟩ := ih.mp hit
          exact ⟨steps + 1, .nested outside sources passed known found⟩
      · rintro ⟨steps, found⟩
        cases found with
        | own inside sources passed known =>
          refine ⟨_, _, _, sources, by simp [tries, known], ?_⟩
          exact fun earlier member => tries_none.mpr (passed earlier member)
        | nested inside sources passed unknown found =>
          refine ⟨_, _, _, sources, by simpa [tries, unknown] using ih.mpr ⟨_, found⟩, ?_⟩
          exact fun earlier member => tries_none.mpr (passed earlier member)

theorem finds_positive (found : Finds table limit name next steps) : 0 < steps := by
  cases found <;> omega

theorem finds_known (found : Finds table limit name next steps) : table.knows next = true := by
  induction found with
  | own inside sources passed known => exact known
  | nested inside sources passed unknown found ih => exact ih

-- A search that may look further finds more, if perhaps something else.
theorem starHop_nearer (missed : table.starHop (limit + 1) name = none) :
    table.starHop limit name = none := by
  induction limit generalizing name with
  | zero => rfl
  | succ limit ih =>
    by_cases outside : outerName name = ""
    · exact starHop_outermost outside
    · rw [starHop_succ outside, List.findSome?_eq_none_iff] at missed ⊢
      intro source member
      obtain ⟨unknown, missed⟩ := tries_none.mp (missed source member)
      exact tries_none.mpr ⟨unknown, ih missed⟩

-- What is found near enough is found by a search that looks less far.
theorem finds_nearer (found : Finds table (limit + 1) name next steps) (near : steps ≤ limit) :
    Finds table limit name next steps := by
  induction limit generalizing name steps with
  | zero =>
    have positive := finds_positive found
    omega
  | succ limit ih =>
    cases found with
    | own inside sources passed known =>
      refine .own inside sources ?_ known
      exact fun earlier member =>
        ⟨(passed earlier member).1, starHop_nearer (passed earlier member).2⟩
    | nested inside sources passed unknown found =>
      refine .nested inside sources ?_ unknown (ih found (by omega))
      exact fun earlier member =>
        ⟨(passed earlier member).1, starHop_nearer (passed earlier member).2⟩

def aliasHop (table : Table) (name : String) : Option String :=
  (table.alias? name).or (table.prefixHop (components name) ((components name).length - 1))

theorem hop_parts : table.hop name = (table.aliasHop name).or (table.starHop hopLimit name) := by
  cases whole : table.alias? name with
  | some target => simp [hop, aliasHop, whole]
  | none =>
    cases outer : table.prefixHop (components name) ((components name).length - 1) <;>
      simp [hop, aliasHop, whole, outer]

-- Each alias and each star import counts as one step.
inductive Leads (table : Table) : Nat → String → String → Prop where
  | here (declared : table.declares target = true) : Leads table 0 target target
  | link (outside : ¬ table.declares name = true) (bound : table.aliasHop name = some next)
      (rest : Leads table steps next target) : Leads table (steps + 1) name target
  | star (outside : ¬ table.declares name = true) (free : table.aliasHop name = none)
      (found : Finds table hopLimit name next imports) (rest : Leads table steps next target) :
      Leads table (steps + imports) name target

theorem first_hop (outside : ¬ table.declares name = true) (hopped : table.hop name = some next)
    (first : FirstDeclared table next count target) :
    FirstDeclared table name (count + 1) target := by
  have onward : ∀ later, table.nameAfter name (later + 1) = table.nameAfter next later := by
    intro later
    rw [Nat.add_comm, nameAfter_add]
    simp [nameAfter, hopped]
  obtain ⟨reached, declared, undeclared⟩ := first
  refine ⟨by rwa [onward], declared, ?_⟩
  intro earlier before passed found
  cases earlier with
  | zero =>
    cases found
    simpa using outside
  | succ earlier =>
    rw [onward] at found
    exact undeclared earlier (by omega) passed found

theorem leads_first (leads : Leads table steps name target) :
    ∃ count ≤ steps, FirstDeclared table name count target := by
  induction leads with
  | here declared => exact ⟨0, by omega, rfl, declared, by simp⟩
  | link outside bound rest ih =>
    obtain ⟨count, limit, first⟩ := ih
    refine ⟨count + 1, by omega, first_hop outside ?_ first⟩
    rw [hop_parts, bound, Option.some_or]
  | star outside free found rest ih =>
    obtain ⟨count, limit, first⟩ := ih
    have positive := finds_positive found
    refine ⟨count + 1, by omega, first_hop outside ?_ first⟩
    rw [hop_parts, free, Option.none_or]
    exact starHop_finds.mpr ⟨_, found⟩

theorem leads_resolve (leads : Leads table steps name target) (limit : steps ≤ hopLimit) :
    table.declares target = true ∧ table.resolve name = target := by
  obtain ⟨count, within, first⟩ := leads_first leads
  exact resolve_declares.mpr ⟨count, by omega, first⟩

end EndpointCatalog.Symbol.Table
