import EndpointCatalog.Proofs.DottedNames
import EndpointCatalog.Symbol.Resolution

namespace EndpointCatalog.Symbol

open Text (Below Inside)

inductive Record where
  | declared (type : TypeDecl)
  | aliased (name target : String)
  | starred (home source : String)

-- What a record refers to may be anywhere.
def Record.Within (package : String) : Record → Prop
  | .declared type => Below package type.qualname
  | .aliased name _ => Below package name
  | .starred home _ => Inside package home

instance (package : String) : (record : Record) → Decidable (record.Within package)
  | .declared type => inferInstanceAs (Decidable (Below package type.qualname))
  | .aliased name _ => inferInstanceAs (Decidable (Below package name))
  | .starred home _ => inferInstanceAs (Decidable (Inside package home))

namespace Table

def record (table : Table) : Record → Table
  | .declared type => table.add type
  | .aliased name target => table.addAlias name target
  | .starred home source => table.addStar home source

def recordAll (table : Table) (records : List Record) : Table := records.foldl record table

structure Grows (package : String) (table grown : Table) : Prop where
  types : ∃ more, grown.types = table.types ++ more ∧ ∀ type ∈ more, Below package type.qualname
  aliases : ∀ name, ¬ Below package name → grown.alias? name = table.alias? name
  stars : ∀ home, ¬ Inside package home → grown.starSources home = table.starSources home

theorem Grows.refl (package : String) (table : Table) : Grows package table table :=
  ⟨⟨[], by simp⟩, fun _ _ => rfl, fun _ _ => rfl⟩

theorem Grows.trans (first : Grows package table middle) (second : Grows package middle grown) :
    Grows package table grown := by
  obtain ⟨front, before, inner⟩ := first.types
  obtain ⟨back, behind, outer⟩ := second.types
  refine ⟨⟨front ++ back, ?_, ?_⟩, ?_, ?_⟩
  · rw [behind, before, List.append_assoc]
  · intro type member
    rcases List.mem_append.mp member with old | new
    · exact inner type old
    · exact outer type new
  · intro name outside
    rw [second.aliases name outside, first.aliases name outside]
  · intro home outside
    rw [second.stars home outside, first.stars home outside]

theorem record_grows {record : Record} (within : record.Within package) :
    Grows package table (table.record record) := by
  cases record with
  | declared type =>
    refine ⟨?_, fun name _ => ?_, fun home _ => ?_⟩
    · by_cases taken : table.declares type.qualname = true
      · exact ⟨[], by simp [Table.record, types_add, taken]⟩
      · refine ⟨[type], by simp [Table.record, types_add, taken], ?_⟩
        intro added member
        rw [List.mem_singleton.mp member]
        exact within
    · rw [Table.record, alias?, aliases_add, alias?]
    · rw [Table.record, starSources, stars_add, starSources]
  | aliased name target =>
    refine ⟨⟨[], by simp [Table.record]⟩, fun other outside => ?_, fun home _ => ?_⟩
    · refine alias_addAlias ?_
      rintro rfl
      exact outside within
    · rw [Table.record, starSources, stars_addAlias, starSources]
  | starred home source =>
    refine ⟨⟨[], by simp [Table.record]⟩, fun other _ => ?_, fun other outside => ?_⟩
    · rw [Table.record, alias?, aliases_addStar, alias?]
    · have apart : home ≠ other := by
        rintro rfl
        exact outside within
      rw [Table.record, starSources_addStar, if_neg apart]

theorem recordAll_grows {records : List Record}
    (within : ∀ record ∈ records, record.Within package) :
    Grows package table (table.recordAll records) := by
  induction records generalizing table with
  | nil => exact .refl package table
  | cons record rest ih =>
    have later := fun record member => within record (List.mem_cons_of_mem _ member)
    exact (record_grows (within record List.mem_cons_self)).trans (ih later)

theorem declared_grows (grows : Grows package table grown) (outside : ¬ Below package name) :
    grown.declared? name = table.declared? name := by
  obtain ⟨more, types, inside⟩ := grows.types
  have nothing : more.find? (·.qualname = name) = none := by
    rw [List.find?_eq_none]
    intro type member same
    apply outside
    rw [← of_decide_eq_true same]
    exact inside type member
  rw [declared?, types, List.find?_append, nothing, Option.or_none, declared?]

end Table

end EndpointCatalog.Symbol
