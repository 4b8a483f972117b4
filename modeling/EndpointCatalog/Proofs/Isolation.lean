import EndpointCatalog.Proofs.Ancestry
import EndpointCatalog.Proofs.Growth
import EndpointCatalog.Proofs.StarImports

namespace EndpointCatalog.Symbol

open Text (components joinDots qualify outerName lastName firstName Undotted Below Inside)

def TypeDecl.mentioned (type : TypeDecl) : List String :=
  type.qualname :: type.bases ++ type.markers.map (·.typeName) ++
    type.methods.flatMap (·.markers.map (·.typeName))

namespace Table

-- Nothing in the table is named inside the package, and no alias stands for nothing.
@[mk_iff]
structure Apart (package : String) (table : Table) : Prop where
  types : ∀ type ∈ table.types, ∀ name ∈ type.mentioned, ¬ Inside package name
  aliases : ∀ entry ∈ table.aliases, ¬ Inside package entry.1 ∧ ¬ Inside package entry.2
  filled : ∀ entry ∈ table.aliases, entry.2 ≠ ""
  stars : ∀ entry ∈ table.stars, ¬ Inside package entry.1 ∧
    ∀ source ∈ entry.2, ¬ Inside package source

instance (package : String) (table : Table) : Decidable (Apart package table) :=
  decidable_of_iff _ (apart_iff package table).symm

structure Isolated (package : String) (table grown : Table) : Prop where
  clean : Undotted package
  apart : Apart package table
  grows : Grows package table grown

variable {table grown : Table}

theorem alias_entry (bound : table.alias? name = some target) : (name, target) ∈ table.aliases := by
  obtain ⟨entry, found, rfl⟩ := Option.map_eq_some_iff.mp bound
  have same : entry.1 = name := by simpa using List.find?_some found
  rw [← same]
  exact List.mem_of_find?_eq_some found

theorem star_entry (member : source ∈ table.starSources home) :
    ∃ sources, (home, sources) ∈ table.stars ∧ source ∈ sources := by
  unfold starSources Source.bound? at member
  cases found : table.stars.find? (·.1 = home) with
  | none => simp [found] at member
  | some entry =>
    have same : entry.1 = home := by simpa using List.find?_some found
    rw [← same]
    exact ⟨entry.2, List.mem_of_find?_eq_some found, by simpa [found] using member⟩

theorem findSome_congr {names : List String} {first second : String → Option α}
    (same : ∀ name ∈ names, first name = second name) :
    names.findSome? first = names.findSome? second := by
  rw [← List.head?_filterMap, ← List.head?_filterMap, List.filterMap_congr same]

namespace Apart

variable (apart : Apart package table)
include apart

theorem known_outside (known : table.knows name = true) : ¬ Inside package name := by
  rw [knows, Bool.or_eq_true, declares_iff] at known
  rcases known with declared | aliased
  · obtain ⟨type, member, rfl⟩ := List.mem_map.mp declared
    exact apart.types type member _ (by simp [TypeDecl.mentioned])
  · obtain ⟨target, bound⟩ := Option.isSome_iff_exists.mp aliased
    exact (apart.aliases _ (alias_entry bound)).1

theorem source_outside (member : source ∈ table.starSources home) : ¬ Inside package source := by
  obtain ⟨sources, entry, inside⟩ := star_entry member
  exact (apart.stars _ entry).2 source inside

theorem base_outside (member : type ∈ table.types) (next : type.base = some base) :
    ¬ Inside package base := by
  refine apart.types type member base ?_
  unfold TypeDecl.base at next
  cases bases : type.bases with
  | nil => simp [bases] at next
  | cons first others =>
    simp only [bases] at next
    split at next
    · cases next
    · cases next
      simp [TypeDecl.mentioned, bases]

theorem marker_outside (member : type ∈ table.types) (marks : marker ∈ type.markers) :
    ¬ Inside package marker.typeName := by
  refine apart.types type member _ ?_
  have named := List.mem_map_of_mem (f := Marker.typeName) marks
  simp [TypeDecl.mentioned, named]

theorem methodMarker_outside (member : type ∈ table.types) (owns : method ∈ type.methods)
    (marks : marker ∈ method.markers) : ¬ Inside package marker.typeName := by
  refine apart.types type member _ (List.mem_append_right _ ?_)
  exact List.mem_flatMap.mpr ⟨method, owns, List.mem_map_of_mem marks⟩

end Apart

namespace Isolated

variable (isolated : Isolated package table grown)
include isolated

theorem alike (outside : ¬ Inside package name) (first : firstName other = firstName name) :
    ¬ Inside package other := by
  rw [Text.inside_firstName isolated.clean] at outside ⊢
  rwa [first]

theorem declared_same (outside : ¬ Below package name) :
    grown.declared? name = table.declared? name :=
  declared_grows isolated.grows outside

theorem knows_same (outside : ¬ Below package name) : grown.knows name = table.knows name := by
  rw [knows, knows, declares, declares, isolated.declared_same outside,
    isolated.grows.aliases name outside]

theorem leading_outside (outside : ¬ Inside package name) (positive : 0 < count) :
    ¬ Inside package (joinDots ((components name).take count)) := by
  refine isolated.alike outside ?_
  refine Text.firstName_leading (List.take_append_drop count (components name)).symm ?_
  intro empty
  rcases List.take_eq_nil_iff.mp empty with zero | nothing
  · omega
  · exact Text.components_ne_nil name nothing

theorem prefixHop_same (outside : ¬ Inside package name) (count : Nat) :
    grown.prefixHop (components name) count = table.prefixHop (components name) count := by
  induction count with
  | zero => rfl
  | succ count ih =>
    have apart := isolated.leading_outside outside (Nat.succ_pos count)
    rw [prefixHop, prefixHop, ih, isolated.grows.aliases _ (Text.not_below apart)]

theorem qualified_outside (outside : ¬ Inside package outer) (named : outer ≠ "") :
    ¬ Inside package (qualify outer name) :=
  isolated.alike outside (Text.firstName_qualify named)

-- A source may be without a name. What is looked for there has no dot, so that nothing below the
-- package is meant, and the search ends.
theorem tries_same (outside : ¬ Inside package source)
    (onward : ∀ name, ¬ Inside package name → grown.starHop depth name = table.starHop depth name) :
    grown.tries depth (qualify source (lastName name)) =
      table.tries depth (qualify source (lastName name)) := by
  by_cases named : source = ""
  · have clean := Text.lastName_undotted name
    have shallow : outerName (lastName name) = "" := Text.outerName_undotted clean
    have apart : ¬ Below package (lastName name) := fun below => Text.below_dotted below clean
    rw [qualify, if_pos named, tries, tries, isolated.knows_same apart,
      starHop_outermost shallow, starHop_outermost shallow]
  · have apart : ¬ Inside package (qualify source (lastName name)) :=
      isolated.qualified_outside outside named
    rw [tries, tries, isolated.knows_same (Text.not_below apart), onward _ apart]

theorem starHop_same (outside : ¬ Inside package name) (depth : Nat) :
    grown.starHop depth name = table.starHop depth name := by
  induction depth generalizing name with
  | zero => rfl
  | succ depth ih =>
    by_cases shallow : outerName name = ""
    · rw [starHop_outermost shallow, starHop_outermost shallow]
    · have home := isolated.alike outside (Text.firstName_outerName shallow)
      rw [starHop_succ shallow, starHop_succ shallow, isolated.grows.stars _ home]
      apply findSome_congr
      intro source member
      have apart := isolated.apart.source_outside member
      exact isolated.tries_same apart fun name outside => ih outside

theorem hop_same (outside : ¬ Inside package name) : grown.hop name = table.hop name := by
  rw [hop_parts, hop_parts, aliasHop, aliasHop, isolated.starHop_same outside,
    isolated.prefixHop_same outside, isolated.grows.aliases name (Text.not_below outside)]

theorem hop_outside (hopped : table.hop name = some next) : ¬ Inside package next := by
  have apart := isolated.apart
  cases hop_exact.mp hopped with
  | whole bound => exact (apart.aliases _ (alias_entry bound)).2
  | outer free cut bound longest =>
    have entry := alias_entry bound
    exact isolated.qualified_outside (apart.aliases _ entry).2 (apart.filled _ entry)
  | star free bare found =>
    obtain ⟨steps, finds⟩ := starHop_finds.mp found
    exact apart.known_outside (finds_known finds)

theorem resolveFrom_same (outside : ¬ Inside package name) (left : Nat) (seen : List String) :
    grown.resolveFrom left seen name = table.resolveFrom left seen name ∧
      ¬ Inside package (table.resolveFrom left seen name) := by
  induction left generalizing seen name with
  | zero => exact ⟨rfl, outside⟩
  | succ left ih =>
    unfold resolveFrom
    rw [declares, isolated.declared_same (Text.not_below outside), ← declares,
      isolated.hop_same outside]
    split
    · exact ⟨rfl, outside⟩
    · cases hopped : table.hop name with
      | none => exact ⟨rfl, outside⟩
      | some next => exact ih (isolated.hop_outside hopped) (name :: seen)

theorem resolve_same (outside : ¬ Inside package name) :
    grown.resolve name = table.resolve name :=
  (isolated.resolveFrom_same outside hopLimit []).1

theorem resolve_outside (outside : ¬ Inside package name) :
    ¬ Inside package (table.resolve name) :=
  (isolated.resolveFrom_same outside hopLimit []).2

theorem get_same (outside : ¬ Inside package name) : grown.get? name = table.get? name := by
  have apart := isolated.resolve_outside outside
  rw [get?, get?, isolated.resolve_same outside,
    isolated.declared_same (Text.not_below apart)]

theorem base_same (member : type ∈ table.types) (next : type.base = some base) :
    grown.resolve base = table.resolve base ∧ ¬ Inside package (table.resolve base) ∧
      grown.declared? (table.resolve base) = table.declared? (table.resolve base) := by
  have outside := isolated.apart.base_outside member next
  have apart := isolated.resolve_outside outside
  exact ⟨isolated.resolve_same outside, apart,
    isolated.declared_same (Text.not_below apart)⟩

theorem climb_same (path : Climb table seen type names) (member : type ∈ table.types) :
    Climb grown seen type names ∧ ∀ name ∈ names, ¬ Inside package name := by
  induction path with
  | top rootless => exact ⟨.top rootless, by simp⟩
  | again next old =>
    obtain ⟨same, apart, found⟩ := isolated.base_same member next
    refine ⟨.again next ?_, by simp⟩
    rwa [same]
  | leave next new outside =>
    obtain ⟨same, apart, found⟩ := isolated.base_same member next
    refine ⟨?_, by simpa using apart⟩
    rw [← same] at new outside found ⊢
    exact .leave next new (found.trans outside)
  | climb next new above rest ih =>
    obtain ⟨same, apart, found⟩ := isolated.base_same member next
    obtain ⟨onward, clear⟩ := ih (declared_mem above)
    refine ⟨?_, List.forall_mem_cons.mpr ⟨apart, clear⟩⟩
    rw [← same] at new above found onward ⊢
    exact .climb next new (found.trans above) onward

theorem ancestors_same (member : type ∈ table.types) :
    grown.ancestors type = table.ancestors type :=
  climb_unique (ancestors_climb grown type)
    (isolated.climb_same (ancestors_climb table type) member).1

theorem ancestor_outside (member : type ∈ table.types) (above : name ∈ table.ancestors type) :
    ¬ Inside package name :=
  (isolated.climb_same (ancestors_climb table type) member).2 name above

theorem inherits_same (member : type ∈ table.types) (outside : ¬ Inside package base) :
    grown.inherits base type = table.inherits base type := by
  rw [inherits, inherits, isolated.ancestors_same member, isolated.resolve_same outside]

theorem ancestorsOf_same (outside : ¬ Inside package name) :
    grown.ancestorsOf name = table.ancestorsOf name := by
  rw [ancestorsOf, ancestorsOf, isolated.get_same outside]
  cases found : table.get? name with
  | none => rfl
  | some type => exact isolated.ancestors_same (declared_mem found)

theorem isMarkerOf_same (wanted : ¬ Inside package base) (outside : ¬ Inside package name) :
    grown.isMarkerOf base name = table.isMarkerOf base name := by
  rw [isMarkerOf, isMarkerOf, inheritsFrom, inheritsFrom, isolated.ancestorsOf_same outside,
    isolated.resolve_same outside, isolated.resolve_same wanted]

theorem findMarker_same (wanted : ¬ Inside package base)
    (outside : ∀ marker ∈ markers, ¬ Inside package marker.typeName) :
    grown.findMarker markers base = table.findMarker markers base := by
  rw [findMarker, findMarker, ← List.head?_filter, ← List.head?_filter]
  congr 1
  apply List.filter_congr
  intro marker member
  exact isolated.isMarkerOf_same wanted (outside marker member)

theorem parametersOf_same (outside : ¬ Inside package name) :
    grown.parametersOf name = table.parametersOf name := by
  unfold parametersOf
  rw [isolated.get_same outside]
  cases found : table.get? name with
  | none => rfl
  | some type =>
    have member := declared_mem found
    have inherited : ((table.ancestors type).findSome? fun above =>
        (grown.declared? above).bind (·.parameters)) =
        (table.ancestors type).findSome? fun above =>
          (table.declared? above).bind (·.parameters) := by
      apply findSome_congr
      intro above passed
      have apart := isolated.ancestor_outside member passed
      rw [isolated.declared_same (Text.not_below apart)]
    simp only [isolated.ancestors_same member, inherited]

theorem firstArgument_same (outside : ¬ Inside package marker.typeName) :
    grown.firstArgument marker = table.firstArgument marker := by
  rw [firstArgument, firstArgument, isolated.parametersOf_same outside]

theorem firstText_same (outside : ¬ Inside package marker.typeName) :
    grown.firstText marker = table.firstText marker := by
  rw [firstText, firstText, isolated.firstArgument_same outside]

end Isolated

end Table

end EndpointCatalog.Symbol
