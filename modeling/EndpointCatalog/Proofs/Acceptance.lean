import EndpointCatalog.Proofs.CollectionFields
import EndpointCatalog.Schema.Check

namespace EndpointCatalog.Schema

open Json (ofFields)
open Text (Codes)

variable {follow : Follow} {value : Json} {fields : List (Codes × Json)}

def Accepts (follow : Follow) (schema : Schema) (value : Json) : Prop :=
  schema.violations follow value = []

theorem faultIfNot_nil (condition : Bool) (fault : Fault) :
    faultIfNot condition fault = [] ↔ condition = true := by
  cases condition <;> simp [faultIfNot]

theorem below_nil (step : Codes) (violations : List Violation) :
    violations.map (·.below step) = [] ↔ violations = [] := List.map_eq_nil_iff

theorem accepts_all (demands : List Schema) :
    Accepts follow (.all demands) value ↔ ∀ demand ∈ demands, Accepts follow demand value := by
  have each : allViolations follow demands value = demands.flatMap (violations follow · value) := by
    induction demands with
    | nil => rfl
    | cons demand demands ih => rw [allViolations, ih, List.flatMap_cons]
  rw [Accepts, violations, each, List.flatMap_eq_nil_iff]
  rfl

theorem accepts_among (values : List Json) :
    Accepts follow (.among values) value ↔ ∃ one ∈ values, one.same value = true := by
  rw [Accepts, violations, faultIfNot_nil, List.any_eq_true]

theorem anyAccepts_iff (alternatives : List Schema) :
    anyAccepts follow alternatives value = true ↔
      ∃ one ∈ alternatives, Accepts follow one value := by
  induction alternatives with
  | nil => simp [anyAccepts]
  | cons first rest ih =>
    rw [anyAccepts, Bool.or_eq_true, ih, List.isEmpty_iff]
    simp [Accepts]

theorem accepts_anyOf (alternatives : List Schema) :
    Accepts follow (.anyOf alternatives) value ↔ ∃ one ∈ alternatives, Accepts follow one value := by
  rw [Accepts, violations, faultIfNot_nil, anyAccepts_iff]

theorem rejected_alternatives {alternatives : List Schema}
    (rejected : ¬ Accepts follow (.all [.anyOf alternatives]) value) :
    violations follow (.all [.anyOf alternatives]) value = [(Fault.noAlternative value).here] := by
  have form : violations follow (.all [.anyOf alternatives]) value =
      faultIfNot (anyAccepts follow alternatives value) (.noAlternative value) ++ [] := rfl
  cases accepted : anyAccepts follow alternatives value with
  | true => exact absurd (by rw [Accepts, form, accepted]; rfl) rejected
  | false =>
    rw [form, accepted]
    rfl

theorem accepts_required (names : List Codes) :
    Accepts follow (.required names) (.obj fields) ↔ ∀ name ∈ names, name ∈ fields.map Prod.fst := by
  rw [Accepts, violations, List.map_eq_nil_iff, List.filter_eq_nil_iff]
  simp

theorem accepts_members (schemas : List (Codes × Schema)) :
    Accepts follow (.members schemas) (.obj fields) ↔ ∀ entry ∈ schemas,
      ∀ field, fields.find? (·.1 = entry.1) = some field → Accepts follow entry.2 field.2 := by
  rw [Accepts, violations]
  induction schemas with
  | nil => simp [memberViolations]
  | cons entry rest ih =>
    obtain ⟨name, schema⟩ := entry
    rw [memberViolations, List.append_eq_nil_iff, ih, List.forall_mem_cons]
    refine and_congr_left fun _ => ?_
    cases found : fields.find? (·.1 = name) with
    | none => simp
    | some field => simp [Accepts]

theorem accepts_items (schema : Schema) (entries : List Json) :
    Accepts follow (.items schema) (.arr entries) ↔
      ∀ entry ∈ entries, Accepts follow schema entry := by
  have listed : entries.zipIdx.map Prod.fst = entries := List.zipIdx_map_fst 0 entries
  rw [Accepts, violations, List.flatMap_eq_nil_iff]
  simp only [below_nil]
  conv_rhs => rw [← listed, List.forall_mem_map]
  rfl

section Objects

theorem find_listed {name : Codes} (apart : (fields.map Prod.fst).Nodup)
    (listed : (name, value) ∈ fields) : fields.find? (·.1 = name) = some (name, value) := by
  induction fields with
  | nil => cases listed
  | cons field fields ih =>
    rw [List.map_cons, List.nodup_cons] at apart
    rcases List.mem_cons.mp listed with rfl | later
    · exact List.find?_cons_of_pos (by simp)
    · have other : field.1 ≠ name := by
        rintro rfl
        exact apart.1 (List.mem_map.mpr ⟨_, later, rfl⟩)
      rw [List.find?_cons_of_neg (by simpa using other), ih apart.2 later]

theorem mem_kept {field : Codes × Json} :
    field ∈ (fields.filter fun field => !field.2.isNull) ↔ field ∈ fields ∧ field.2 ≠ .null := by
  rw [List.mem_filter, Bool.not_eq_true', ← Bool.not_eq_true, Json.isNull_iff]

theorem accepts_fields (apart : (fields.map Prod.fst).Nodup) (schemas : List (Codes × Schema)) :
    Accepts follow (.members schemas) (ofFields fields) ↔ ∀ entry ∈ schemas,
      ∀ value, (entry.1, value) ∈ fields → value ≠ .null → Accepts follow entry.2 value := by
  rw [ofFields, accepts_members]
  refine forall₂_congr fun entry _ => ⟨fun each value listed said => ?_, fun each field found => ?_⟩
  · exact each _ (find_listed (Json.kept_apart apart) (mem_kept.mpr ⟨listed, said⟩))
  · have named : field.1 = entry.1 := by simpa using List.find?_some found
    obtain ⟨listed, said⟩ := mem_kept.mp (List.mem_of_find?_eq_some found)
    exact each field.2 (named ▸ listed) said

theorem accepts_requiredFields (names : List Codes) :
    Accepts follow (.required names) (ofFields fields) ↔
      ∀ name ∈ names, ∃ value, (name, value) ∈ fields ∧ value ≠ .null := by
  rw [ofFields, accepts_required]
  refine forall₂_congr fun name _ => ?_
  rw [List.mem_map]
  constructor
  · rintro ⟨field, kept, rfl⟩
    exact ⟨field.2, mem_kept.mp kept⟩
  · rintro ⟨value, held⟩
    exact ⟨(name, value), mem_kept.mpr held, rfl⟩

end Objects

end EndpointCatalog.Schema
