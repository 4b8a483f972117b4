import EndpointCatalog.Proofs.Ancestry

namespace EndpointCatalog.Symbol.Table

variable {table : Table}

theorem isMarkerOf_reaches :
    table.isMarkerOf base name = true ↔
      table.resolve name = table.resolve base ∨
        table.Reaches (table.resolve name) (table.resolve base) := by
  rw [isMarkerOf, Bool.or_eq_true, decide_eq_true_iff, inheritsFrom_reaches]
  constructor
  · rintro (same | ⟨-, reached⟩)
    · exact .inl same
    · exact .inr reached
  · rintro (same | reached)
    · exact .inl same
    · by_cases same : table.resolve name = table.resolve base
      · exact .inl same
      · exact .inr ⟨fun back => same back.symm, reached⟩

theorem isMarkerOf_self (table : Table) (name : String) : table.isMarkerOf name name = true :=
  isMarkerOf_reaches.mpr (.inl rfl)

theorem isMarkerOf_through (upper : table.isMarkerOf a b = true)
    (lower : table.isMarkerOf b c = true) : table.isMarkerOf a c = true := by
  rw [isMarkerOf_reaches] at upper lower ⊢
  rcases lower with same | onward
  · rwa [same]
  · rcases upper with same | further
    · rw [same] at onward
      exact .inr onward
    · exact .inr (onward.trans further)

-- Two walks compose into one that may come back to where it began, and nothing is above itself.
theorem inheritsFrom_through (upper : table.inheritsFrom a b = true)
    (lower : table.inheritsFrom b c = true) :
    table.inheritsFrom a c = true ∨ table.resolve a = table.resolve c := by
  rw [inheritsFrom_reaches] at upper lower
  by_cases back : table.resolve a = table.resolve c
  · exact .inr back
  · exact .inl (inheritsFrom_reaches.mpr ⟨back, lower.2.trans upper.2⟩)

theorem markers_preorder (table : Table) :
    (∀ a, table.isMarkerOf a a = true) ∧
    (∀ a b c, table.isMarkerOf a b = true → table.isMarkerOf b c = true →
      table.isMarkerOf a c = true) ∧
    ∀ a b c, table.inheritsFrom a b = true → table.inheritsFrom b c = true →
      table.inheritsFrom a c = true ∨ table.resolve a = table.resolve c := by
  refine ⟨isMarkerOf_self table, ?_, ?_⟩
  · intro a b c upper lower
    exact isMarkerOf_through upper lower
  · intro a b c upper lower
    exact inheritsFrom_through upper lower

-- On a cycle plain transitivity fails: each of the two classes is above the other, none above
-- itself.
theorem cyclic_markers :
    cyclic.isMarkerOf "m.A" "p.B" = true ∧ cyclic.isMarkerOf "p.B" "m.C" = true ∧
    cyclic.isMarkerOf "m.A" "m.C" = true ∧
    cyclic.inheritsFrom "m.A" "p.B" = true ∧ cyclic.inheritsFrom "p.B" "m.A" = true ∧
    cyclic.inheritsFrom "m.A" "m.A" = false ∧
    (cyclic.inheritsFrom "m.A" "m.A" = true ∨ cyclic.resolve "m.A" = cyclic.resolve "m.A") :=
  ⟨by decide, by decide,
    (markers_preorder cyclic).2.1 "m.A" "p.B" "m.C" (by decide) (by decide),
    by decide, by decide, by decide,
    (markers_preorder cyclic).2.2 "m.A" "p.B" "m.A" (by decide) (by decide)⟩

end EndpointCatalog.Symbol.Table
