import EndpointCatalog.Text.Names

namespace EndpointCatalog.Text

variable {α : Type} [DecidableEq α] {piece text : List α}

theorem cutAt_splitOn (mark : α) (text : List α) : cutAt mark text = text.splitOn mark := by
  induction text with
  | nil => rfl
  | cons c rest ih =>
    rw [cutAt, ih, List.splitOn_cons_eq_if_modifyHead]
    by_cases cut : c = mark
    · simp [cut]
    · cases pieces : rest.splitOn mark with
      | nil => exact absurd pieces (List.splitOn_ne_nil mark rest)
      | cons piece pieces => simp [cut]

theorem cutAt_unmarked {mark : α} (member : piece ∈ cutAt mark text) : mark ∉ piece := by
  induction text generalizing piece with
  | nil =>
    rw [List.mem_singleton.mp member]
    exact List.not_mem_nil
  | cons c rest ih =>
    unfold cutAt at member
    by_cases cut : c = mark
    · rw [if_pos cut] at member
      rcases List.mem_cons.mp member with rfl | later
      · exact List.not_mem_nil
      · exact ih later
    · rw [if_neg cut] at member
      cases pieces : cutAt mark rest with
      | nil =>
        rw [cutAt_splitOn] at pieces
        exact absurd pieces (List.splitOn_ne_nil mark rest)
      | cons first others =>
        rw [pieces] at member ih
        rcases List.mem_cons.mp member with rfl | later
        · have clean := ih List.mem_cons_self
          simpa [Ne.symm cut] using clean
        · exact ih (List.mem_cons_of_mem _ later)

def Undotted (name : String) : Prop := '.' ∉ name.toList

instance (name : String) : Decidable (Undotted name) :=
  inferInstanceAs (Decidable ('.' ∉ name.toList))

theorem components_letters (name : String) :
    (components name).map String.toList = name.toList.splitOn '.' := by
  simp [components, cutAt_splitOn]

theorem components_of_letters (letters : name.toList.splitOn '.' = parts.map String.toList) :
    components name = parts := by
  rw [components, cutAt_splitOn, letters]
  simp

theorem components_ne_nil (name : String) : components name ≠ [] := by
  simp [components, cutAt_splitOn]

theorem component_undotted (member : part ∈ components name) : Undotted part := by
  obtain ⟨piece, cut, rfl⟩ := List.mem_map.mp member
  rw [Undotted, String.toList_ofList]
  exact cutAt_unmarked cut

@[simp]
theorem joinDots_components (name : String) : joinDots (components name) = name := by
  apply String.toList_inj.mp
  rw [joinDots, String.toList_intercalate, components_letters]
  exact List.intercalate_splitOn '.'

theorem components_joinDots (clean : ∀ part ∈ parts, Undotted part) (some : parts ≠ []) :
    components (joinDots parts) = parts := by
  apply components_of_letters
  rw [joinDots, String.toList_intercalate]
  apply List.splitOn_intercalate '.'
  · intro letters member
    obtain ⟨part, inside, rfl⟩ := List.mem_map.mp member
    exact clean part inside
  · simpa using some

theorem components_undotted (clean : Undotted name) : components name = [name] := by
  apply components_of_letters
  exact List.splitOn_eq_singleton clean

theorem components_append (outer name : String) :
    components (outer ++ "." ++ name) = components outer ++ components name := by
  apply components_of_letters
  have letters : (outer ++ "." ++ name).toList = outer.toList ++ '.' :: name.toList := by simp
  rw [letters, List.splitOn_append_cons_self, List.map_append, components_letters,
    components_letters]

theorem components_qualify (named : outer ≠ "") :
    components (qualify outer name) = components outer ++ components name := by
  rw [qualify, if_neg named, components_append]

theorem joinDots_append (front : first ≠ []) (back : second ≠ []) :
    joinDots (first ++ second) = joinDots first ++ "." ++ joinDots second :=
  String.intercalate_append_of_ne_nil front back

theorem outerName_qualify (named : outer ≠ "") (clean : Undotted name) :
    outerName (qualify outer name) = outer := by
  rw [outerName, components_qualify named, components_undotted clean, List.dropLast_concat,
    joinDots_components]

theorem lastName_qualify (clean : Undotted name) : lastName (qualify outer name) = name := by
  by_cases named : outer = ""
  · simp [qualify, named, lastName, components_undotted clean]
  · simp [lastName, components_qualify named, components_undotted clean]

theorem outerName_behind (clean : Undotted name) : outerName (qualify outer name) = outer := by
  by_cases named : outer = ""
  · rw [named, qualify, if_pos rfl, outerName, components_undotted clean]
    rfl
  · exact outerName_qualify named clean

theorem qualify_injective (clean : Undotted name) (same : qualify outer name = qualify other name) :
    outer = other := by
  have cut := congrArg outerName same
  rwa [outerName_behind clean, outerName_behind clean] at cut

theorem lastName_undotted (name : String) : Undotted (lastName name) := by
  cases parts : components name with
  | nil => exact absurd parts (components_ne_nil name)
  | cons first rest =>
    have member : lastName name ∈ components name := by
      rw [lastName, parts, List.getLastD_cons]
      exact List.getLastD_mem_cons
    exact component_undotted member

theorem undotted_firstName (name : String) : Undotted (firstName name) := by
  cases parts : components name with
  | nil => exact absurd parts (components_ne_nil name)
  | cons first rest =>
    have member : firstName name ∈ components name := by simp [firstName, parts]
    exact component_undotted member

theorem outerName_undotted (clean : Undotted name) : outerName name = "" := by
  rw [outerName, components_undotted clean]
  rfl

theorem firstName_undotted (clean : Undotted name) : firstName name = name := by
  rw [firstName, components_undotted clean]
  rfl

theorem firstName_append : firstName (outer ++ "." ++ name) = firstName outer := by
  rw [firstName, firstName, components_append]
  cases parts : components outer with
  | nil => exact absurd parts (components_ne_nil outer)
  | cons first rest => rfl

theorem firstName_qualify (named : outer ≠ "") : firstName (qualify outer name) = firstName outer := by
  rw [qualify, if_neg named, firstName_append]

theorem firstName_leading (parts : components name = outer ++ rest) (some : outer ≠ []) :
    firstName (joinDots outer) = firstName name := by
  have clean : ∀ part ∈ outer, Undotted part := by
    intro part member
    have inside : part ∈ components name := by
      rw [parts]
      exact List.mem_append_left rest member
    exact component_undotted inside
  rw [firstName, firstName, components_joinDots clean some, parts]
  cases outer with
  | nil => exact absurd rfl some
  | cons first others => rfl

theorem firstName_outerName (inside : outerName name ≠ "") :
    firstName (outerName name) = firstName name := by
  refine firstName_leading (List.dropLast_concat_getLast (components_ne_nil name)).symm ?_
  intro empty
  rw [outerName, empty] at inside
  exact inside rfl

def Below (package name : String) : Prop := ∃ rest, name = package ++ "." ++ rest

def Inside (package name : String) : Prop := name = package ∨ Below package name

theorem below_prefix : Below package name ↔ (package ++ ".").toList <+: name.toList := by
  constructor
  · rintro ⟨rest, rfl⟩
    exact ⟨rest.toList, by simp⟩
  · rintro ⟨rest, same⟩
    refine ⟨String.ofList rest, String.toList_inj.mp ?_⟩
    rw [String.toList_append, String.toList_ofList, same]

instance (package name : String) : Decidable (Below package name) :=
  decidable_of_iff _ below_prefix.symm

instance (package name : String) : Decidable (Inside package name) :=
  inferInstanceAs (Decidable (_ ∨ _))

theorem not_below (outside : ¬ Inside package name) : ¬ Below package name :=
  fun below => outside (.inr below)

theorem below_dotted (below : Below package name) : ¬ Undotted name := by
  obtain ⟨rest, rfl⟩ := below
  simp [Undotted]

theorem inside_firstName (clean : Undotted package) :
    Inside package name ↔ firstName name = package := by
  constructor
  · rintro (rfl | ⟨rest, rfl⟩)
    · exact firstName_undotted clean
    · rw [firstName_append, firstName_undotted clean]
  · intro first
    cases parts : components name with
    | nil => exact absurd parts (components_ne_nil name)
    | cons head rest =>
      rw [firstName, parts, List.headD_cons] at first
      subst first
      have whole := joinDots_components name
      rw [parts] at whole
      cases rest with
      | nil => exact .inl whole.symm
      | cons next others =>
        refine .inr ⟨joinDots (next :: others), ?_⟩
        rw [← whole, ← List.singleton_append, joinDots_append (by simp) (by simp)]
        rfl

end EndpointCatalog.Text
