import EndpointCatalog.Proofs.Contribution
import EndpointCatalog.Proofs.Records
import Mathlib.Data.List.Nodup

namespace EndpointCatalog.Symbol

open Files (Path Tree)

inductive Step where
  | record (entry : Record)
  | file (tree : Tree) (path : Path) (home : String)
  | root (tree : Tree) (root : Path)
  | roots (tree : Tree) (roots : List Path)

namespace Table

def step (table : Table) : Step → Intake
  | .record entry => (table.record entry, none)
  | .file tree path home => table.takeFile tree path home
  | .root tree root => table.takeRoot tree root
  | .roots tree roots => table.takeRoots tree roots

-- A run goes on with the table that a step leaves, whether the step failed or not.
def run (table : Table) (steps : List Step) : Table :=
  steps.foldl (fun table step => (table.step step).1) table

structure Sound (table : Table) : Prop where
  keyed : ∀ name type, table.declared? name = some type → type.qualname = name
  declared : ∀ type ∈ table.types, table.declared? type.qualname = some type
  named : (table.aliases.map (·.1)).Nodup
  apart : ∀ entry ∈ table.aliases, entry.1 ≠ entry.2
  homes : (table.stars.map (·.1)).Nodup
  sources : ∀ entry ∈ table.stars, entry.1 ∉ entry.2 ∧ entry.2.Nodup

structure Extends (before after : Table) : Prop where
  types : before.types <+: after.types
  aliases : before.aliases <+: after.aliases
  homes : before.stars.map (·.1) <+: after.stars.map (·.1)
  sources : ∀ home, before.starSources home <+: after.starSources home
  skipped : before.skipped <+: after.skipped

theorem Extends.refl (table : Table) : Extends table table :=
  ⟨List.prefix_rfl, List.prefix_rfl, List.prefix_rfl, fun _ => List.prefix_rfl, List.prefix_rfl⟩

theorem Extends.trans (first : Extends before middle) (second : Extends middle after) :
    Extends before after :=
  ⟨first.types.trans second.types, first.aliases.trans second.aliases,
    first.homes.trans second.homes, fun home => (first.sources home).trans (second.sources home),
    first.skipped.trans second.skipped⟩

theorem extends_declared (extended : Extends before after)
    (found : before.declared? name = some type) : after.declared? name = some type :=
  extended.types.find?_eq_some found

theorem extends_alias (extended : Extends before after)
    (found : before.alias? name = some target) : after.alias? name = some target := by
  obtain ⟨entry, first, rfl⟩ := Option.map_eq_some_iff.mp found
  exact Option.map_eq_some_iff.mpr ⟨entry, extended.aliases.find?_eq_some first, rfl⟩

theorem homes_rebind {α : Type} {value : α} {bindings : List (String × α)} :
    (Source.rebind home value bindings).map (·.1) =
      if home ∈ bindings.map (·.1) then bindings.map (·.1) else bindings.map (·.1) ++ [home] := by
  induction bindings with
  | nil => rfl
  | cons entry rest ih =>
    obtain ⟨key, old⟩ := entry
    unfold Source.rebind
    by_cases same : key = home
    · simp [same]
    · rw [if_neg same, List.map_cons, ih]
      by_cases later : home ∈ rest.map (·.1)
      · simp [later]
      · simp [later, Ne.symm same]

theorem mem_rebind {α : Type} {value : α} {entry : String × α} {bindings : List (String × α)}
    (member : entry ∈ Source.rebind home value bindings) :
    entry = (home, value) ∨ entry ∈ bindings := by
  induction bindings with
  | nil => exact .inl (List.mem_singleton.mp member)
  | cons first rest ih =>
    obtain ⟨key, old⟩ := first
    unfold Source.rebind at member
    by_cases same : key = home
    · rw [if_pos same, List.mem_cons, same] at member
      exact member.imp id (List.mem_cons_of_mem _)
    · rw [if_neg same, List.mem_cons] at member
      rcases member with rfl | later
      · exact .inr List.mem_cons_self
      · exact (ih later).imp id (List.mem_cons_of_mem _)

variable {table : Table}

theorem starSources_listed (table : Table) (home : String) :
    table.starSources home = [] ∨ (home, table.starSources home) ∈ table.stars := by
  unfold starSources Source.bound?
  cases found : table.stars.find? (·.1 = home) with
  | none => exact .inl rfl
  | some entry =>
    obtain ⟨key, sources⟩ := entry
    have same : key = home := by simpa using List.find?_some found
    rw [← same]
    exact .inr (List.mem_of_find?_eq_some found)

theorem starSources_sound (sound : table.Sound) (home : String) :
    home ∉ table.starSources home ∧ (table.starSources home).Nodup := by
  rcases starSources_listed table home with nothing | listed
  · simp [nothing]
  · exact sound.sources _ listed

theorem addSource_sound (outside : home ∉ sources) (distinct : sources.Nodup) :
    home ∉ addSource home sources source ∧ (addSource home sources source).Nodup := by
  unfold addSource
  split
  · exact ⟨outside, distinct⟩
  · rename_i fresh
    obtain ⟨other, unlisted⟩ := not_or.mp fresh
    rw [← List.concat_eq_append]
    exact ⟨by simp [outside, Ne.symm other], distinct.concat unlisted⟩

theorem addSource_extends : sources <+: addSource home sources source := by
  unfold addSource
  split
  · exact List.prefix_rfl
  · exact List.prefix_append _ _

theorem addAlias_sound (sound : table.Sound) : (table.addAlias name target).Sound := by
  unfold addAlias
  split
  · exact sound
  · rename_i fresh
    rw [not_or] at fresh
    obtain ⟨other, free⟩ := fresh
    have unnamed : name ∉ table.aliases.map (·.1) := by
      intro listed
      obtain ⟨entry, member, same⟩ := List.mem_map.mp listed
      apply free
      rw [alias?, Source.bound?, Option.isSome_map, List.find?_isSome]
      exact ⟨entry, member, decide_eq_true same⟩
    refine ⟨sound.keyed, sound.declared, ?_, ?_, sound.homes, sound.sources⟩
    · rw [List.map_append, List.map_singleton, ← List.concat_eq_append]
      exact sound.named.concat unnamed
    · intro entry member
      rcases List.mem_append.mp member with old | added
      · exact sound.apart entry old
      · rw [List.mem_singleton.mp added]
        exact other

theorem addStar_sound (sound : table.Sound) : (table.addStar home source).Sound := by
  obtain ⟨outside, distinct⟩ := starSources_sound sound home
  refine ⟨sound.keyed, sound.declared, sound.named, sound.apart, ?_, ?_⟩
  · rw [addStar, homes_rebind]
    split
    · exact sound.homes
    · rename_i fresh
      rw [← List.concat_eq_append]
      exact sound.homes.concat fresh
  · intro entry member
    rcases mem_rebind member with rfl | old
    · exact addSource_sound outside distinct
    · exact sound.sources entry old

theorem record_sound {entry : Record} (sound : table.Sound) : (table.record entry).Sound := by
  cases entry with
  | declared type =>
    refine ⟨fun _ _ => declared_qualname, fun _ => declared_of_mem, ?_, ?_, ?_, ?_⟩
    · rw [Table.record, aliases_add]
      exact sound.named
    · rw [Table.record, aliases_add]
      exact sound.apart
    · rw [Table.record, stars_add]
      exact sound.homes
    · rw [Table.record, stars_add]
      exact sound.sources
  | aliased name target => exact addAlias_sound sound
  | starred home source => exact addStar_sound sound

theorem record_extends {entry : Record} : Extends table (table.record entry) := by
  cases entry with
  | declared type =>
    rw [Table.record, add]
    split
    · exact .refl table
    · exact { Extends.refl table with types := List.prefix_append _ _ }
  | aliased name target =>
    rw [Table.record, addAlias]
    split
    · exact .refl table
    · exact { Extends.refl table with aliases := List.prefix_append _ _ }
  | starred home source =>
    refine ⟨List.prefix_rfl, List.prefix_rfl, ?_, fun other => ?_, List.prefix_rfl⟩
    · rw [Table.record, addStar, homes_rebind]
      split
      · exact List.prefix_rfl
      · exact List.prefix_append _ _
    · rw [Table.record, starSources_addStar]
      split
      · rename_i same
        subst same
        exact addSource_extends
      · exact List.prefix_rfl

theorem recordAll_sound {records : List Record} (sound : table.Sound) :
    (table.recordAll records).Sound := by
  unfold recordAll
  induction records generalizing table with
  | nil => exact sound
  | cons entry rest ih => exact ih (record_sound sound)

theorem recordAll_extends {records : List Record} : Extends table (table.recordAll records) := by
  unfold recordAll
  induction records generalizing table with
  | nil => exact .refl table
  | cons entry rest ih => exact record_extends.trans ih

theorem skipAll_sound (sound : table.Sound) : (table.skipAll paths).Sound :=
  ⟨sound.keyed, sound.declared, sound.named, sound.apart, sound.homes, sound.sources⟩

theorem skipAll_extends : Extends table (table.skipAll paths) :=
  { Extends.refl table with skipped := List.prefix_append _ _ }

-- What comes of a table by writing records into it and noting skipped files.
def Written (before after : Table) : Prop :=
  ∃ records paths, after = (before.recordAll records).skipAll paths

theorem Written.refl (table : Table) : Written table table := ⟨[], [], skipAll_nil.symm⟩

theorem Written.trans (first : Written before middle) (second : Written middle after) :
    Written before after := by
  obtain ⟨records, paths, rfl⟩ := first
  obtain ⟨more, others, rfl⟩ := second
  exact ⟨records ++ more, paths ++ others, by
    rw [recordAll_skipAll, skipAll_append, recordAll_append]⟩

theorem takeFile_written {tree : Tree} : Written table (table.takeFile tree path home).1 := by
  rw [takeFile_contributes]
  exact ⟨_, _, rfl⟩

-- The items in front of one that ends the intake have been written, and so has its own part.
theorem takeEach_written {α : Type} {take : Table → α → Intake}
    (each : ∀ table item, Written table (take table item).1) {items : List α} :
    Written table (table.takeEach take items).1 := by
  induction items generalizing table with
  | nil => exact .refl table
  | cons item rest ih =>
    have own := each table item
    unfold takeEach
    cases took : take table item with
    | mk middle failure =>
      rw [took] at own
      cases failure with
      | none => exact own.trans ih
      | some e => exact own

theorem takeRoot_written {tree : Tree} : Written table (table.takeRoot tree root).1 := by
  unfold takeRoot
  split
  · exact .refl table
  · exact takeFile_written
  · exact takeEach_written fun _ _ => takeFile_written

theorem step_written (step : Step) : Written table (table.step step).1 := by
  cases step with
  | record entry => exact ⟨[entry], [], skipAll_nil.symm⟩
  | file tree path home => exact takeFile_written
  | root tree root => exact takeRoot_written
  | roots tree roots => exact takeEach_written fun _ _ => takeRoot_written

theorem run_written (steps : List Step) : Written table (table.run steps) := by
  unfold run
  induction steps generalizing table with
  | nil => exact .refl table
  | cons step rest ih => exact (step_written step).trans ih

theorem written_sound (written : Written before after) (sound : before.Sound) : after.Sound := by
  obtain ⟨records, paths, rfl⟩ := written
  exact skipAll_sound (recordAll_sound sound)

theorem written_extends (written : Written before after) : Extends before after := by
  obtain ⟨records, paths, rfl⟩ := written
  exact recordAll_extends.trans skipAll_extends

theorem empty_sound : empty.Sound :=
  ⟨fun _ _ => declared_qualname, fun _ => declared_of_mem, List.nodup_nil, by simp [empty],
    List.nodup_nil, by simp [empty]⟩

theorem histories_append (steps later : List Step) :
    (empty.run steps).Sound ∧ Extends (empty.run steps) (empty.run (steps ++ later)) ∧
    (∀ name type, (empty.run steps).declared? name = some type →
      (empty.run (steps ++ later)).declared? name = some type) ∧
    ∀ name target, (empty.run steps).alias? name = some target →
      (empty.run (steps ++ later)).alias? name = some target := by
  have extended : Extends (empty.run steps) (empty.run (steps ++ later)) := by
    rw [run, run, List.foldl_append]
    exact written_extends (run_written later)
  exact ⟨written_sound (run_written steps) empty_sound, extended,
    fun _ _ => extends_declared extended, fun _ _ => extends_alias extended⟩

def obstructed : Step := .file ⟨.directory [("a.py", .directory [])], []⟩ ⟨.relative, ["a.py"]⟩ "a"

def firstSteps : List Step :=
  [.record (.aliased "m.A" "m.A"), .record (.aliased "m.A" "s.A"), .record (.starred "m" "m"),
    .record (.starred "m" "s"), obstructed]

def laterSteps : List Step :=
  [.record (.starred "m" "t"), .record (.aliased "m.A" "t.A"), .record (.starred "m" "s")]

theorem obstructed_history :
    (empty.step obstructed).2 = some (.file ⟨.isDirectory, ⟨.relative, ["a.py"]⟩⟩) ∧
    (empty.run firstSteps).alias? "m.A" = some "s.A" ∧
    (empty.run (firstSteps ++ laterSteps)).alias? "m.A" = some "s.A" ∧
    (empty.run (firstSteps ++ laterSteps)).starSources "m" = ["s", "t"] := by
  have first : (empty.run firstSteps).alias? "m.A" = some "s.A" := by decide
  exact ⟨by decide, first, (histories_append firstSteps laterSteps).2.2.2 _ _ first, by decide⟩

end Table

end EndpointCatalog.Symbol
