import EndpointCatalog.Source.Parser

namespace EndpointCatalog.Source.Parser

-- What a parser gives, if it gives anything, is good.
def Yields (p : Parser α) (good : α → Prop) : Prop :=
  ∀ tokens start value stop, p tokens start = some (value, stop) → good value

theorem yields_pure (holds : good value) : Yields (pure value) good := by
  intro tokens start result stop gave
  cases gave
  exact holds

theorem yields_fail : Yields (fail : Parser α) good := by
  intro tokens start result stop gave
  cases gave

theorem yields_bind {f : α → Parser β} (first : Yields p P)
    (next : ∀ value, P value → Yields (f value) Q) : Yields (p >>= f) Q := by
  intro tokens start result stop gave
  obtain ⟨⟨value, middle⟩, early, later⟩ := Option.bind_eq_some_iff.mp gave
  exact next value (first tokens start value middle early) tokens middle result stop later

-- What stands in front does not matter for what is given at the end.
theorem yields_then {f : α → Parser β} (next : ∀ value, Yields (f value) fine) :
    Yields (p >>= f) fine :=
  yields_bind (P := fun _ => True) (fun _ _ _ _ _ => trivial) fun value _ => next value

theorem yields_failed {f : α → Parser β} : Yields (fail >>= f) good :=
  yields_bind (P := fun _ => False) yields_fail fun _ never => never.elim

theorem yields_optional (first : Yields p good) :
    Yields (optional p) fun found => ∀ value ∈ found, good value := by
  intro tokens start result stop gave
  change ((p tokens start).bind fun found => some (some found.1, found.2)).orElse
    (fun _ => some (none, start)) = some (result, stop) at gave
  cases given : p tokens start with
  | none =>
    rw [given] at gave
    cases gave
    simp
  | some found =>
    rw [given] at gave
    cases gave
    rintro _ ⟨rfl⟩
    exact first tokens start found.1 found.2 given

theorem yields_iterate {step : α → Parser (Option α)}
    (keeps : ∀ value, good value → Yields (step value) fun next => ∀ value ∈ next, good value)
    (count : Nat) (holds : good value) : Yields (iterate step count value) good := by
  induction count generalizing value with
  | zero => exact yields_pure holds
  | succ count ih =>
    refine yields_bind (keeps value holds) ?_
    intro next after
    cases next with
    | none => exact yields_pure holds
    | some value => exact ih (after value rfl)

theorem yields_repeating {step : α → Parser (Option α)}
    (keeps : ∀ value, good value → Yields (step value) fun next => ∀ value ∈ next, good value)
    (holds : good value) : Yields (repeating step value) good :=
  yields_then fun count => yields_iterate keeps (count + 1) holds

theorem yields_commaSeparated (each : Yields item good) :
    Yields (commaSeparated item) fun items => ∀ item ∈ items, good item := by
  refine yields_bind each fun first holds => ?_
  refine yields_bind (P := fun items => ∀ item ∈ items, good item) ?_ ?_
  · refine yields_repeating ?_ (by simpa using holds)
    intro items earlier
    refine yields_then fun comma => ?_
    split
    · refine yields_bind each fun next holds => yields_pure ?_
      rintro _ ⟨rfl⟩
      exact List.forall_mem_cons.mpr ⟨holds, earlier⟩
    · exact yields_pure (by simp)
  · intro items all
    exact yields_pure fun item member => all item (List.mem_reverse.mp member)

theorem yields_commaList (each : Yields item good) :
    Yields (commaList item) fun found => ∀ item ∈ found.1, good item := by
  refine yields_bind each fun first holds => ?_
  refine yields_bind (P := fun state => ∀ item ∈ state.1, good item) ?_ ?_
  · refine yields_repeating ?_ (by simpa using holds)
    rintro ⟨items, several, closed⟩ earlier
    dsimp only
    split
    · exact yields_pure (by simp)
    · refine yields_then fun comma => ?_
      split
      · refine yields_bind (yields_optional each) fun found holds => ?_
        cases found with
        | none =>
          refine yields_pure ?_
          rintro _ ⟨rfl⟩
          exact earlier
        | some next =>
          refine yields_pure ?_
          rintro _ ⟨rfl⟩
          exact List.forall_mem_cons.mpr ⟨holds next rfl, earlier⟩
      · exact yields_pure (by simp)
  · intro state all
    exact yields_pure fun item member => all item (List.mem_reverse.mp member)

end EndpointCatalog.Source.Parser
