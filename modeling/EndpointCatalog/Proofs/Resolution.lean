import EndpointCatalog.Symbol.Resolution
import Mathlib.Order.Bounds.Defs

namespace EndpointCatalog.Symbol.Table

open Text (components joinDots qualify)

structure Cut (name : String) (outer rest : List String) : Prop where
  parts : components name = outer ++ rest
  outer : outer ≠ []
  rest : rest ≠ []

-- An alias of the whole name goes before one of the longest proper prefix, and this before what
-- star imports bind.
inductive Next (table : Table) (name : String) : String → Prop where
  | whole (bound : table.alias? name = some target) : Next table name target
  | outer (free : table.alias? name = none) (cut : Cut name outer rest)
      (bound : table.alias? (joinDots outer) = some target)
      (longest : ∀ longer shorter, Cut name longer shorter → outer.length < longer.length →
        table.alias? (joinDots longer) = none) :
      Next table name (qualify target (joinDots rest))
  | star (free : table.alias? name = none)
      (bare : ∀ outer rest, Cut name outer rest → table.alias? (joinDots outer) = none)
      (found : table.starHop hopLimit name = some next) : Next table name next

variable {table : Table}

theorem take_cut (positive : 0 < length) (proper : length ≤ (components name).length - 1) :
    Cut name ((components name).take length) ((components name).drop length) := by
  have inside : length < (components name).length := by omega
  refine ⟨(List.take_append_drop _ _).symm, ?_, ?_⟩
  · intro empty
    have size := congrArg List.length empty
    rw [List.length_take, List.length_nil] at size
    omega
  · intro empty
    have size := congrArg List.length empty
    rw [List.length_drop, List.length_nil] at size
    omega

theorem cut_take (cut : Cut name outer rest) :
    0 < outer.length ∧ outer.length ≤ (components name).length - 1 ∧
      (components name).take outer.length = outer ∧
      (components name).drop outer.length = rest := by
  obtain ⟨parts, front, back⟩ := cut
  have before := List.length_pos_iff.mpr front
  have behind := List.length_pos_iff.mpr back
  rw [parts]
  refine ⟨before, ?_, by simp, by simp⟩
  rw [List.length_append]
  omega

-- The search starts at the longest prefix, so that it ends at the longest one with an alias.
theorem prefixHop_some (found : table.prefixHop parts count = some next) :
    ∃ length target, 0 < length ∧ length ≤ count ∧
      table.alias? (joinDots (parts.take length)) = some target ∧
      next = qualify target (joinDots (parts.drop length)) ∧
      ∀ longer, length < longer → longer ≤ count →
        table.alias? (joinDots (parts.take longer)) = none := by
  induction count with
  | zero => cases found
  | succ count ih =>
    unfold prefixHop at found
    cases bound : table.alias? (joinDots (parts.take (count + 1))) with
    | some target =>
      simp only [bound] at found
      cases found
      refine ⟨count + 1, target, by omega, by omega, bound, rfl, ?_⟩
      intro longer above below
      omega
    | none =>
      simp only [bound] at found
      obtain ⟨length, target, positive, below, hit, same, longest⟩ := ih found
      refine ⟨length, target, positive, by omega, hit, same, ?_⟩
      intro longer above limit
      rcases Nat.lt_or_eq_of_le limit with inside | last
      · exact longest longer above (by omega)
      · rw [last]
        exact bound

theorem prefixHop_none :
    table.prefixHop parts count = none ↔
      ∀ length, 0 < length → length ≤ count →
        table.alias? (joinDots (parts.take length)) = none := by
  induction count with
  | zero =>
    simp only [prefixHop, true_iff]
    intro length positive below
    omega
  | succ count ih =>
    unfold prefixHop
    constructor
    · intro missed length positive below
      cases bound : table.alias? (joinDots (parts.take (count + 1))) with
      | some target => simp [bound] at missed
      | none =>
        simp only [bound] at missed
        rcases Nat.lt_or_eq_of_le below with inside | last
        · exact ih.mp missed length positive (by omega)
        · rw [last]
          exact bound
    · intro bare
      rw [bare (count + 1) (by omega) (by omega)]
      exact ih.mpr fun length positive below => bare length positive (by omega)

theorem hop_sound (hopped : table.hop name = some next) : Next table name next := by
  unfold hop at hopped
  cases bound : table.alias? name with
  | some target =>
    simp only [bound] at hopped
    cases hopped
    exact .whole bound
  | none =>
    simp only [bound] at hopped
    cases searched : table.prefixHop (components name) ((components name).length - 1) with
    | some found =>
      simp only [searched] at hopped
      cases hopped
      obtain ⟨length, target, positive, below, hit, rfl, longest⟩ := prefixHop_some searched
      refine .outer bound (take_cut positive below) hit ?_
      intro longer shorter cut above
      obtain ⟨-, limit, front, -⟩ := cut_take cut
      rw [List.length_take] at above
      rw [← front]
      exact longest longer.length (by omega) limit
    | none =>
      simp only [searched] at hopped
      refine .star bound ?_ hopped
      intro outer rest cut
      obtain ⟨positive, limit, front, -⟩ := cut_take cut
      rw [← front]
      exact prefixHop_none.mp searched outer.length positive limit

theorem hop_complete (rule : Next table name next) : table.hop name = some next := by
  cases rule with
  | whole bound => simp [hop, bound]
  | @outer outer rest target free cut bound longest =>
    obtain ⟨positive, limit, front, back⟩ := cut_take cut
    cases searched : table.prefixHop (components name) ((components name).length - 1) with
    | none =>
      have missing := prefixHop_none.mp searched outer.length positive limit
      rw [front, bound] at missing
      cases missing
    | some found =>
      obtain ⟨length, other, above, below, hit, rfl, nearest⟩ := prefixHop_some searched
      have same : length = outer.length := by
        rcases Nat.lt_trichotomy length outer.length with shorter | same | longer
        · have missing := nearest outer.length shorter limit
          rw [front, bound] at missing
          cases missing
        · exact same
        · have missing := longest _ _ (take_cut above below) (by rw [List.length_take]; omega)
          rw [hit] at missing
          cases missing
      rw [same, front, bound] at hit
      cases hit
      simp [hop, free, searched, same, back]
  | star free bare found =>
    have searched : table.prefixHop (components name) ((components name).length - 1) = none := by
      rw [prefixHop_none]
      intro length positive below
      exact bare _ _ (take_cut positive below)
    simp [hop, free, searched, found]

theorem hop_exact : table.hop name = some next ↔ Next table name next :=
  ⟨hop_sound, hop_complete⟩

-- The sequence of hops from a name, as long as there are any.
def nameAfter (table : Table) (name : String) : Nat → Option String
  | 0 => some name
  | count + 1 => (table.nameAfter name count).bind table.hop

theorem nameAfter_add :
    table.nameAfter name (earlier + more) =
      (table.nameAfter name earlier).bind (table.nameAfter · more) := by
  induction more with
  | zero => cases table.nameAfter name earlier <;> rfl
  | succ more ih =>
    rw [← Nat.add_assoc, nameAfter, ih, Option.bind_assoc]
    rfl

theorem nameAfter_earlier (reached : table.nameAfter name later = some here)
    (before : earlier ≤ later) : ∃ passed, table.nameAfter name earlier = some passed := by
  obtain ⟨more, rfl⟩ := Nat.exists_eq_add_of_le before
  rw [nameAfter_add] at reached
  obtain ⟨passed, found, -⟩ := Option.bind_eq_some_iff.mp reached
  exact ⟨passed, found⟩

-- The last hop that is allowed is a reason to stop as well.
def Stops (table : Table) (name : String) (count : Nat) : Prop :=
  ∃ here, table.nameAfter name count = some here ∧
    (table.declares here = true ∨
      (∃ earlier < count, table.nameAfter name earlier = some here) ∨
      table.hop here = none ∨ count = hopLimit)

-- What holds while a resolution hops on.
structure Trail (table : Table) (name : String) (count : Nat) (seen : List String)
    (here : String) : Prop where
  reached : table.nameAfter name count = some here
  seen : ∀ passed, passed ∈ seen ↔ ∃ earlier < count, table.nameAfter name earlier = some passed
  running : ∀ earlier < count, ¬ Stops table name earlier

theorem trail_start : Trail table name 0 [] name := by
  refine ⟨rfl, by simp, by simp⟩

theorem trail_least (trail : Trail table name count seen here) (stops : Stops table name count) :
    IsLeast {count | Stops table name count} count := by
  refine ⟨stops, ?_⟩
  intro other stopped
  rcases Nat.lt_or_ge other count with before | after
  · exact absurd stopped (trail.running other before)
  · exact after

theorem trail_hops (trail : Trail table name count seen here)
    (outside : ¬ table.declares here = true) (new : here ∉ seen)
    (hopped : table.hop here = some next) (allowed : count ≠ hopLimit) :
    Trail table name (count + 1) (here :: seen) next := by
  refine ⟨?_, ?_, ?_⟩
  · rw [nameAfter, trail.reached]
    exact hopped
  · intro passed
    rw [List.mem_cons, trail.seen]
    constructor
    · rintro (rfl | ⟨earlier, before, there⟩)
      · exact ⟨count, by omega, trail.reached⟩
      · exact ⟨earlier, by omega, there⟩
    · rintro ⟨earlier, before, there⟩
      rcases Nat.lt_or_eq_of_le (Nat.le_of_lt_succ before) with inside | rfl
      · exact .inr ⟨earlier, inside, there⟩
      · rw [trail.reached] at there
        cases there
        exact .inl rfl
  · intro earlier before stops
    rcases Nat.lt_or_eq_of_le (Nat.le_of_lt_succ before) with inside | rfl
    · exact trail.running earlier inside stops
    · obtain ⟨there, reached, reason⟩ := stops
      rw [trail.reached] at reached
      cases reached
      rcases reason with declared | repeated | stuck | last
      · exact outside declared
      · exact new ((trail.seen here).mpr repeated)
      · rw [hopped] at stuck
        cases stuck
      · exact allowed last

theorem resolveFrom_stops (trail : Trail table name count seen here)
    (budget : count + left = hopLimit) :
    ∃ last, IsLeast {count | Stops table name count} last ∧
      table.nameAfter name last = some (table.resolveFrom left seen here) := by
  induction left generalizing count seen here with
  | zero =>
    have stops : Stops table name count := ⟨here, trail.reached, .inr (.inr (.inr budget))⟩
    exact ⟨count, trail_least trail stops, trail.reached⟩
  | succ left ih =>
    unfold resolveFrom
    by_cases declared : table.declares here = true
    · refine ⟨count, trail_least trail ⟨here, trail.reached, .inl declared⟩, ?_⟩
      simpa [declared] using trail.reached
    · by_cases old : here ∈ seen
      · have repeated := (trail.seen here).mp old
        refine ⟨count, trail_least trail ⟨here, trail.reached, .inr (.inl repeated)⟩, ?_⟩
        simpa [old] using trail.reached
      · cases hopped : table.hop here with
        | none =>
          refine ⟨count, trail_least trail ⟨here, trail.reached, .inr (.inr (.inl hopped))⟩, ?_⟩
          simpa [declared, old] using trail.reached
        | some next =>
          have further := trail_hops trail declared old hopped (by omega)
          simpa [declared, old] using ih further (by omega)

theorem resolve_stops (table : Table) (name : String) :
    ∃ last, IsLeast {count | Stops table name count} last ∧
      table.nameAfter name last = some (table.resolve name) :=
  resolveFrom_stops trail_start (Nat.zero_add _)

def FirstDeclared (table : Table) (name : String) (count : Nat) (target : String) : Prop :=
  table.nameAfter name count = some target ∧ table.declares target = true ∧
    ∀ earlier < count, ∀ passed, table.nameAfter name earlier = some passed →
      table.declares passed = false

theorem least_limited (least : IsLeast {count | Stops table name count} last) :
    last ≤ hopLimit := by
  obtain ⟨here, reached, -⟩ := least.1
  rcases Nat.lt_or_ge hopLimit last with beyond | within
  · obtain ⟨passed, found⟩ := nameAfter_earlier reached (Nat.le_of_lt beyond)
    exact least.2 ⟨passed, found, by simp⟩
  · exact within

-- Before the first declared name nothing repeats, since what follows would repeat as well, and
-- that name would have come up earlier.
theorem first_unstopped (first : FirstDeclared table name count target) (limit : count ≤ hopLimit)
    (before : earlier < count) : ¬ Stops table name earlier := by
  obtain ⟨reached, declared, undeclared⟩ := first
  rintro ⟨here, passed, reason⟩
  rcases reason with found | ⟨older, behind, again⟩ | stuck | last
  · rw [undeclared earlier before here passed] at found
    cases found
  · have ahead : table.nameAfter name (earlier + (count - earlier)) = some target := by
      rwa [Nat.add_sub_cancel' (Nat.le_of_lt before)]
    have sooner : table.nameAfter name (older + (count - earlier)) = some target := by
      rw [nameAfter_add, again, ← passed, ← nameAfter_add]
      exact ahead
    have missing := undeclared _ (by omega) target sooner
    rw [declared] at missing
    cases missing
  · obtain ⟨later, found⟩ := nameAfter_earlier reached (Nat.succ_le_of_lt before)
    rw [Nat.succ_eq_add_one, nameAfter, passed, Option.bind_some, stuck] at found
    cases found
  · omega

theorem resolve_declares :
    table.declares target = true ∧ table.resolve name = target ↔
      ∃ count ≤ hopLimit, FirstDeclared table name count target := by
  obtain ⟨last, least, reached⟩ := resolve_stops table name
  constructor
  · rintro ⟨declared, rfl⟩
    refine ⟨last, least_limited least, reached, declared, ?_⟩
    intro earlier before passed found
    by_cases declared : table.declares passed = true
    · have after := least.2 ⟨passed, found, .inl declared⟩
      omega
    · simpa using declared
  · rintro ⟨count, limit, first⟩
    have stops : Stops table name count := ⟨target, first.1, .inl first.2.1⟩
    have same : last = count := by
      rcases Nat.lt_or_eq_of_le (least.2 stops) with before | same
      · exact absurd least.1 (first_unstopped first limit before)
      · exact same
    rw [same, first.1] at reached
    cases reached
    exact ⟨first.2.1, rfl⟩

theorem resolve_declared (declared : table.declares name = true) : table.resolve name = name := by
  have first : FirstDeclared table name 0 name := ⟨rfl, declared, by simp⟩
  exact (resolve_declares.mpr ⟨0, Nat.zero_le _, first⟩).2

-- A sequence of hops never ends by choice: what a name resolves to is where it first has to stop.
theorem resolve_exact (table : Table) (name : String) :
    (∀ here next, table.hop here = some next ↔ Next table here next) ∧
    (∃ last, IsLeast {count | Stops table name count} last ∧
      table.nameAfter name last = some (table.resolve name)) ∧
    (∀ target, table.declares target = true ∧ table.resolve name = target ↔
      ∃ count ≤ hopLimit, FirstDeclared table name count target) ∧
    (table.declares name = true → table.resolve name = name) :=
  ⟨fun _ _ => hop_exact, resolve_stops table name, fun _ => resolve_declares, resolve_declared⟩

def chainName (count : Nat) : String := String.ofList (List.replicate (count + 1) 'a')

def chained : Table :=
  { empty with
    types := [⟨chainName hopLimit, "", "", [], [], [], none, none, 0⟩]
    aliases := (List.range (hopLimit + 2)).map fun count => (chainName count, chainName (count + 1))
    distinct := by decide }

theorem chained_resolves :
    chained.declares (chainName hopLimit) = true ∧
    chained.resolve (chainName 0) = chainName hopLimit ∧
    (∃ count ≤ hopLimit, FirstDeclared chained (chainName 0) count (chainName hopLimit)) ∧
    chained.resolve (chainName hopLimit) = chainName hopLimit :=
  ⟨by decide +kernel, by decide +kernel,
    ((resolve_exact chained (chainName 0)).2.2.1 (chainName hopLimit)).mp
      ⟨by decide +kernel, by decide +kernel⟩,
    (resolve_exact chained (chainName hopLimit)).2.2.2 (by decide +kernel)⟩

end EndpointCatalog.Symbol.Table
