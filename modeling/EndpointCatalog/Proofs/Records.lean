import EndpointCatalog.Proofs.Growth

namespace EndpointCatalog.Symbol

namespace Record

def typeOf? (name : String) : Record → Option TypeDecl
  | .declared type => if type.qualname = name then some type else none
  | _ => none

def targetOf? (name : String) : Record → Option String
  | .aliased own target => if own = name ∧ own ≠ target then some target else none
  | _ => none

def sourceOf? (home : String) : Record → Option String
  | .starred own source => if own = home then some source else none
  | _ => none

theorem typeOf_some {entry : Record} (answer : entry.typeOf? name = some type) :
    entry = .declared type ∧ type.qualname = name := by
  cases entry with
  | declared own =>
    obtain ⟨same, rfl⟩ : own.qualname = name ∧ own = type := by simpa [typeOf?] using answer
    exact ⟨rfl, same⟩
  | aliased own target => cases answer
  | starred own source => cases answer

theorem targetOf_some {entry : Record} (answer : entry.targetOf? name = some target) :
    entry = .aliased name target := by
  cases entry with
  | declared own => cases answer
  | aliased own other =>
    obtain ⟨⟨rfl, -⟩, rfl⟩ : (own = name ∧ own ≠ other) ∧ other = target := by
      simpa [targetOf?] using answer
    rfl
  | starred own source => cases answer

theorem sourceOf_some {entry : Record} (answer : entry.sourceOf? home = some source) :
    entry = .starred home source := by
  cases entry with
  | declared own => cases answer
  | aliased own target => cases answer
  | starred own other =>
    obtain ⟨rfl, rfl⟩ : own = home ∧ other = source := by simpa [sourceOf?] using answer
    rfl

end Record

namespace Table

variable {table : Table}

theorem declared_record {entry : Record} :
    (table.record entry).declared? name = (table.declared? name).or (entry.typeOf? name) := by
  cases entry with
  | declared type =>
    rw [Table.record, declared?, types_add]
    by_cases same : type.qualname = name
    · subst same
      by_cases taken : table.declares type.qualname = true
      · obtain ⟨old, found⟩ := Option.isSome_iff_exists.mp taken
        rw [if_pos taken, ← declared?, found, Option.some_or]
      · have free : table.declared? type.qualname = none := by
          simpa [declares] using taken
        rw [if_neg taken, List.find?_append, ← declared?, free]
        simp [Record.typeOf?]
    · split
      · simp [Record.typeOf?, same, declared?]
      · simp [Record.typeOf?, same, declared?, List.find?_append]
  | aliased own target => simp [Table.record, Record.typeOf?, declared?]
  | starred home source => simp [Table.record, Record.typeOf?, declared?]

theorem alias_record {entry : Record} :
    (table.record entry).alias? name = (table.alias? name).or (entry.targetOf? name) := by
  cases entry with
  | declared type => simp [Table.record, Record.targetOf?, alias?]
  | aliased own target =>
    rw [Table.record, addAlias]
    by_cases same : own = name
    · subst same
      by_cases idle : own = target
      · simp [Record.targetOf?, idle]
      · cases found : table.alias? own with
        | some old => simp [found]
        | none =>
          rw [alias?, Source.bound?, Option.map_eq_none_iff] at found
          simp [Record.targetOf?, idle, alias?, Source.bound?, List.find?_append, found]
    · split
      · simp [Record.targetOf?, same]
      · simp [Record.targetOf?, same, alias?, Source.bound?, List.find?_append]
  | starred home source => simp [Table.record, Record.targetOf?, alias?]

-- A module is no source of its own, and no source is listed twice.
def addSource (home : String) (sources : List String) (source : String) : List String :=
  if source = home ∨ source ∈ sources then sources else sources ++ [source]

theorem stars_record {entry : Record} :
    (table.record entry).starSources home =
      (entry.sourceOf? home).toList.foldl (addSource home) (table.starSources home) := by
  cases entry with
  | declared type => simp [Table.record, Record.sourceOf?, starSources]
  | aliased own target => simp [Table.record, Record.sourceOf?, starSources]
  | starred own source =>
    rw [Table.record, starSources_addStar]
    by_cases same : own = home
    · subst same
      simp [Record.sourceOf?, addSource]
    · simp [Record.sourceOf?, same]

theorem first_recordAll {β : Type} (look : Table → Option β) (about : Record → Option β)
    (step : ∀ table entry, look (record table entry) = (look table).or (about entry))
    (table : Table) (records : List Record) :
    look (table.recordAll records) = (look table).or (records.filterMap about).head? := by
  unfold recordAll
  induction records generalizing table with
  | nil => simp
  | cons entry rest ih =>
    rw [List.foldl_cons, ih, step, List.filterMap_cons, Option.or_assoc]
    cases about entry <;> rfl

theorem declared_recordAll {records : List Record} :
    (table.recordAll records).declared? name =
      (table.declared? name).or (records.filterMap (·.typeOf? name)).head? :=
  first_recordAll (·.declared? name) (·.typeOf? name) (fun _ _ => declared_record) table records

theorem alias_recordAll {records : List Record} :
    (table.recordAll records).alias? name =
      (table.alias? name).or (records.filterMap (·.targetOf? name)).head? :=
  first_recordAll (·.alias? name) (·.targetOf? name) (fun _ _ => alias_record) table records

theorem stars_recordAll {records : List Record} :
    (table.recordAll records).starSources home =
      (records.filterMap (·.sourceOf? home)).foldl (addSource home) (table.starSources home) := by
  unfold recordAll
  induction records generalizing table with
  | nil => rfl
  | cons entry rest ih =>
    rw [List.foldl_cons, ih, stars_record, List.filterMap_cons]
    cases entry.sourceOf? home <;> rfl

theorem rebind_same {α : Type} {value : α} {bindings : List (String × α)}
    (bound : Source.bound? name bindings = some value) :
    Source.rebind name value bindings = bindings := by
  induction bindings with
  | nil => cases bound
  | cons entry rest ih =>
    obtain ⟨key, old⟩ := entry
    unfold Source.rebind
    by_cases same : key = name
    · subst same
      have kept : old = value := by simpa [Source.bound?] using bound
      rw [if_pos rfl, kept]
    · have later : Source.bound? name rest = some value := by
        simpa [Source.bound?, same] using bound
      rw [if_neg same, ih later]

def Holds (table : Table) : Record → Prop
  | .declared type => table.declares type.qualname = true
  | .aliased name target => name = target ∨ (table.alias? name).isSome = true
  | .starred home source =>
    (Source.bound? home table.stars).isSome = true ∧
      (source = home ∨ source ∈ table.starSources home)

theorem record_held {entry : Record} (held : table.Holds entry) : table.record entry = table := by
  cases entry with
  | declared type => exact dif_pos held
  | aliased name target => exact if_pos held
  | starred home source =>
    obtain ⟨known, listed⟩ := held
    obtain ⟨sources, bound⟩ := Option.isSome_iff_exists.mp known
    have own : table.starSources home = sources := by rw [starSources, bound, Option.getD_some]
    rw [Table.record, addStar, if_pos listed, own, rebind_same bound]

theorem addSource_mem : source = home ∨ source ∈ addSource home sources source := by
  unfold addSource
  split
  · assumption
  · exact .inr (by simp)

theorem addSource_keeps (listed : source ∈ sources) : source ∈ addSource home sources other := by
  unfold addSource
  split
  · exact listed
  · exact List.mem_append_left _ listed

theorem record_holds {entry : Record} : (table.record entry).Holds entry := by
  cases entry with
  | declared type => exact declares_add.mpr (.inr rfl)
  | aliased name target =>
    by_cases same : name = target
    · exact .inl same
    · refine .inr ?_
      rw [alias_record, Option.isSome_or]
      simp [Record.targetOf?, same]
  | starred home source =>
    refine ⟨?_, ?_⟩
    · rw [Table.record, addStar, Source.bound_rebind, if_pos rfl]
      rfl
    · rw [stars_record]
      simpa [Record.sourceOf?] using addSource_mem

theorem record_keeps {entry other : Record} (held : table.Holds entry) :
    (table.record other).Holds entry := by
  cases entry with
  | declared type =>
    have known : (table.declared? type.qualname).isSome = true := held
    change ((table.record other).declared? type.qualname).isSome = true
    rw [declared_record, Option.isSome_or, known, Bool.true_or]
  | aliased name target =>
    refine held.imp id fun bound => ?_
    rw [alias_record, Option.isSome_or, bound, Bool.true_or]
  | starred home source =>
    refine ⟨?_, ?_⟩
    · cases other with
      | declared type => simpa [Table.record] using held.1
      | aliased name target => simpa [Table.record] using held.1
      | starred own another =>
        rw [Table.record, addStar, Source.bound_rebind]
        split
        · rfl
        · exact held.1
    · refine held.2.imp id fun listed => ?_
      rw [stars_record]
      cases other.sourceOf? home with
      | none => exact listed
      | some another => exact addSource_keeps listed

theorem recordAll_keeps {records : List Record} (held : table.Holds entry) :
    (table.recordAll records).Holds entry := by
  unfold recordAll
  induction records generalizing table with
  | nil => exact held
  | cons other rest ih => exact ih (record_keeps held)

theorem recordAll_holds {records : List Record} (member : entry ∈ records) :
    (table.recordAll records).Holds entry := by
  obtain ⟨before, after, rfl⟩ := List.append_of_mem member
  rw [recordAll, List.foldl_append, List.foldl_cons]
  exact recordAll_keeps record_holds

theorem recordAll_held {records : List Record} (held : ∀ entry ∈ records, table.Holds entry) :
    table.recordAll records = table := by
  unfold recordAll
  induction records with
  | nil => rfl
  | cons entry rest ih =>
    obtain ⟨first, others⟩ := List.forall_mem_cons.mp held
    rw [List.foldl_cons, record_held first, ih others]

end Table

end EndpointCatalog.Symbol
