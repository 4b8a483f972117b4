import EndpointCatalog.Proofs.Markers
import EndpointCatalog.Proofs.Resolution

namespace EndpointCatalog.Symbol.Table

-- A resolution is settled when it ends at a declared name, or with a hop to spare.
def Settled (table : Table) (name : String) : Prop :=
  table.declares (table.resolve name) = true ∨ ∃ count < hopLimit, Stops table name count

variable {table : Table}

theorem resolve_stopped (least : IsLeast {count | Stops table name count} last)
    (reached : table.nameAfter name last = some here) : table.resolve name = here := by
  obtain ⟨other, first, found⟩ := resolve_stops table name
  rw [Nat.le_antisymm (first.2 least.1) (least.2 first.1), reached] at found
  exact (Option.some.inj found).symm

-- A reason to stop on the way from a later name is one on the way to it as well.
theorem stops_onward (passed : table.nameAfter name earlier = some here)
    (stops : Stops table here more) (inside : more < hopLimit) :
    Stops table name (earlier + more) := by
  have onward : ∀ count, table.nameAfter name (earlier + count) = table.nameAfter here count := by
    intro count
    rw [nameAfter_add, passed, Option.bind_some]
  obtain ⟨there, reached, reason⟩ := stops
  refine ⟨there, by rwa [onward], ?_⟩
  rcases reason with declared | ⟨before, sooner, again⟩ | stuck | last
  · exact .inl declared
  · exact .inr (.inl ⟨earlier + before, by omega, by rwa [onward]⟩)
  · exact .inr (.inr (.inl stuck))
  · omega

-- A repeated name is on a cycle of hops. A walk from it has no reason to stop before it is back.
theorem resolve_repeated (least : IsLeast {count | Stops table name count} last)
    (inside : last < hopLimit) (reached : table.nameAfter name last = some here)
    (sooner : earlier < last) (again : table.nameAfter name earlier = some here) :
    table.resolve here = here := by
  obtain ⟨period, rfl⟩ := Nat.exists_eq_add_of_lt sooner
  have back : table.nameAfter here (period + 1) = some here := by
    rw [Nat.add_assoc, nameAfter_add, again] at reached
    exact reached
  have closes : Stops table here (period + 1) :=
    ⟨here, back, .inr (.inl ⟨0, by omega, rfl⟩)⟩
  apply resolve_stopped ⟨closes, ?_⟩ back
  intro count stops
  rcases Nat.lt_or_ge count (period + 1) with before | after
  · have stopped := least.2 (stops_onward again stops (by omega))
    omega
  · exact after

theorem resolve_stuck (stuck : table.hop name = none) : table.resolve name = name := by
  have stops : Stops table name 0 := ⟨name, rfl, .inr (.inr (.inl stuck))⟩
  exact resolve_stopped ⟨stops, fun _ _ => Nat.zero_le _⟩ rfl

theorem resolve_settled (settled : Settled table name) :
    table.resolve (table.resolve name) = table.resolve name := by
  rcases settled with declared | ⟨count, inside, stops⟩
  · exact resolve_declared declared
  · obtain ⟨last, least, reached⟩ := resolve_stops table name
    have before := least.2 stops
    obtain ⟨here, found, reason⟩ := least.1
    rw [reached] at found
    cases found
    rcases reason with declared | ⟨earlier, sooner, again⟩ | stuck | limit
    · exact resolve_declared declared
    · exact resolve_repeated least (by omega) reached sooner again
    · exact resolve_stuck stuck
    · omega

theorem get_resolved (same : table.resolve other = table.resolve name) :
    table.get? other = table.get? name := by
  rw [get?, get?, same]

theorem ancestorsOf_resolved (same : table.resolve other = table.resolve name) :
    table.ancestorsOf other = table.ancestorsOf name := by
  rw [ancestorsOf, ancestorsOf, get_resolved same]

theorem parametersOf_resolved (same : table.resolve other = table.resolve name) :
    table.parametersOf other = table.parametersOf name := by
  rw [parametersOf, parametersOf, get_resolved same]

theorem inheritsFrom_resolved (upper : table.resolve otherBase = table.resolve base)
    (lower : table.resolve other = table.resolve name) :
    table.inheritsFrom otherBase other = table.inheritsFrom base name := by
  rw [inheritsFrom, inheritsFrom, upper, ancestorsOf_resolved lower]

theorem isMarkerOf_resolved (upper : table.resolve otherBase = table.resolve base)
    (lower : table.resolve other = table.resolve name) :
    table.isMarkerOf otherBase other = table.isMarkerOf base name := by
  rw [isMarkerOf, isMarkerOf, upper, lower, inheritsFrom_resolved upper lower]

theorem settled_stands (settled : Settled table name) :
    table.resolve (table.resolve name) = table.resolve name ∧
    table.get? name = table.declared? (table.resolve name) ∧
    table.get? (table.resolve name) = table.get? name ∧
    table.ancestorsOf (table.resolve name) = table.ancestorsOf name ∧
    table.parametersOf (table.resolve name) = table.parametersOf name ∧
    (∀ type, table.inherits (table.resolve name) type = table.inherits name type) ∧
    (∀ lower, table.inheritsFrom (table.resolve name) lower = table.inheritsFrom name lower) ∧
    (∀ base, table.inheritsFrom base (table.resolve name) = table.inheritsFrom base name) ∧
    (∀ lower, table.isMarkerOf (table.resolve name) lower = table.isMarkerOf name lower) ∧
    ∀ base, table.isMarkerOf base (table.resolve name) = table.isMarkerOf base name := by
  have same := resolve_settled settled
  refine ⟨same, rfl, get_resolved same, ancestorsOf_resolved same, parametersOf_resolved same,
    ?_, ?_, ?_, ?_, ?_⟩
  · intro type
    rw [inherits, inherits, same]
  · intro lower
    exact inheritsFrom_resolved same rfl
  · intro base
    exact inheritsFrom_resolved rfl same
  · intro lower
    exact isMarkerOf_resolved same rfl
  · intro base
    exact isMarkerOf_resolved rfl same

def winding : Table :=
  { empty with
    types := [{ bareType "core.Base" [] with parameters := some ["template"] },
      bareType "app.Page" ["web.Base"]]
    aliases := [("t.X", "a.X"), ("a.X", "b.X"), ("b.X", "a.X"), ("app.kernel", "core")]
    stars := [("web", ["core"])]
    distinct := by decide }

theorem winding_stands :
    Settled winding "t.X" ∧ winding.resolve "t.X" = "a.X" ∧ winding.resolve "a.X" = "a.X" ∧
    winding.resolve "app.kernel.Base" = "core.Base" ∧ winding.resolve "web.Base" = "core.Base" ∧
    winding.parametersOf "core.Base" = winding.parametersOf "app.kernel.Base" ∧
    winding.inheritsFrom "core.Base" "app.Page" = winding.inheritsFrom "web.Base" "app.Page" := by
  have tail : Settled winding "t.X" :=
    .inr ⟨3, by decide, "a.X", by decide +kernel, .inr (.inl ⟨1, by decide, by decide +kernel⟩)⟩
  have leads : winding.resolve "t.X" = "a.X" := by decide +kernel
  have kernel : winding.resolve "app.kernel.Base" = "core.Base" := by decide +kernel
  have web : winding.resolve "web.Base" = "core.Base" := by decide +kernel
  have declared : winding.declares "core.Base" = true := by decide +kernel
  have cycle := (settled_stands tail).1
  have inside := (settled_stands (.inl (kernel ▸ declared))).2.2.2.2.1
  have starred := (settled_stands (.inl (web ▸ declared))).2.2.2.2.2.2.1 "app.Page"
  rw [leads] at cycle
  rw [kernel] at inside
  rw [web] at starred
  exact ⟨tail, leads, cycle, kernel, web, inside, starred⟩

end EndpointCatalog.Symbol.Table
