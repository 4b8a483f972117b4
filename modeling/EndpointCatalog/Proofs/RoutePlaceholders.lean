import EndpointCatalog.Discovery.Application
import EndpointCatalog.Proofs.ControllerName
import EndpointCatalog.Proofs.ImportedNames
import Mathlib

namespace EndpointCatalog.Text

def Code.lower : Code → Code
  | .char c => .char c.toLower
  | .half unit => .half unit

end EndpointCatalog.Text

namespace EndpointCatalog.Discovery

open EndpointCatalog.Symbol (Table TypeDecl Marker)
open Text (Code Codes codes)

-- A text in pieces that hold no placeholder, with one placeholder between each two of them.
structure Cut (text : Codes) (pieces : List Codes) : Prop where
  some : pieces ≠ []
  joined : text = placeholder.intercalate pieces
  clear : ∀ piece ∈ pieces, ¬ placeholder <:+: piece

def Unnested (text : Codes) : Prop :=
  ∀ front inside back, text = front ++ Code.char '[' :: (inside ++ Code.char ']' :: back) →
    Code.char ']' ∉ inside → Code.char '[' ∉ inside

theorem unnested_tails : Unnested text ↔ ∀ rest ∈ text.tails, rest.head? = some (.char '[') →
    Code.char ']' ∈ rest.tail → Code.char '[' ∉ rest.tail.takeWhile (· ≠ Code.char ']') := by
  constructor
  · intro unnested rest suffix begins closed
    obtain ⟨front, rfl⟩ := (List.mem_tails ..).mp suffix
    obtain ⟨tail, rfl⟩ := List.head?_eq_some_iff.mp begins
    rw [List.tail_cons] at closed ⊢
    obtain ⟨inside, back, parts, first⟩ := List.eq_append_cons_of_mem closed
    have kept : tail.takeWhile (· ≠ Code.char ']') = inside := by
      rw [parts, List.takeWhile_append_of_pos (by grind), List.takeWhile_cons_of_neg (by simp),
        List.append_nil]
    rw [kept]
    exact unnested front inside back (by rw [parts]) first
  · rintro each front inside back rfl first
    have kept : (inside ++ Code.char ']' :: back).takeWhile (· ≠ Code.char ']') = inside := by
      rw [List.takeWhile_append_of_pos (by grind), List.takeWhile_cons_of_neg (by simp),
        List.append_nil]
    have settled := each _ ((List.mem_tails ..).mpr (List.suffix_append ..)) rfl
      (List.mem_append_right _ List.mem_cons_self)
    rwa [List.tail_cons, kept] at settled

instance (text : Codes) : Decidable (Unnested text) := decidable_of_iff _ unnested_tails.symm

theorem bracket_first (parts : placeholder = front ++ back) (begun : front ≠ []) :
    Code.char '[' ∉ back := by
  obtain ⟨c, front, rfl⟩ := List.exists_cons_of_ne_nil begun
  have inside : codes "controller]" = front ++ back := (List.cons.inj parts).2
  intro member
  have listed : Code.char '[' ∈ codes "controller]" := inside ▸ List.mem_append_right _ member
  exact absurd listed (by decide)

theorem bracket_last (parts : placeholder = front ++ back) (more : back ≠ []) :
    Code.char ']' ∉ front := by
  have ends : codes "[controller" ++ [Code.char ']'] =
      (front ++ back.dropLast) ++ [back.getLast more] := by
    rw [List.append_assoc, List.dropLast_append_getLast, ← parts]
    rfl
  intro member
  have listed : Code.char ']' ∈ codes "[controller" :=
    (List.append_inj' ends rfl).1 ▸ List.mem_append_left _ member
  exact absurd listed (by decide)

theorem bracket_opens (begins : front <+: placeholder ++ rest) (begun : front ≠ []) :
    Code.char '[' ∈ front := by
  obtain ⟨c, front, rfl⟩ := List.exists_cons_of_ne_nil begun
  obtain ⟨back, parts⟩ := begins
  have opened : c = Code.char '[' := (List.cons.inj parts).1
  exact opened ▸ List.mem_cons_self

theorem bracket_closes (ends : back <:+ placeholder) (some : back ≠ []) : Code.char ']' ∈ back := by
  have closed : back.getLast some = Code.char ']' := ends.getLast some
  exact closed ▸ List.getLast_mem some

theorem intercalate_append (word : Codes) {earlier later : List Codes} (some : earlier ≠ [])
    (more : later ≠ []) :
    word.intercalate (earlier ++ later) =
      word.intercalate earlier ++ word ++ word.intercalate later := by
  induction earlier with
  | nil => exact absurd rfl some
  | cons first earlier ih =>
    cases earlier with
    | nil =>
      rw [List.singleton_append, List.intercalate_cons_of_ne_nil more, List.intercalate_singleton]
    | cons second earlier =>
      rw [List.cons_append, List.intercalate_cons_of_ne_nil (by simp), ih (by simp),
        List.intercalate_cons_cons]
      simp only [List.append_assoc]

theorem intercalate_begins (word first : Codes) (pieces : List Codes) :
    first <+: word.intercalate (first :: pieces) := by
  cases pieces with
  | nil => rw [List.intercalate_singleton]
  | cons second pieces =>
    rw [List.intercalate_cons_cons, List.append_assoc]
    exact List.prefix_append ..

theorem cut_append (one : Cut front earlier) (other : Cut back later) :
    Cut (front ++ placeholder ++ back) (earlier ++ later) where
  some := by simp [one.some]
  joined := by rw [intercalate_append _ one.some other.some, ← one.joined, ← other.joined]
  clear piece member := (List.mem_append.mp member).elim (one.clear piece) (other.clear piece)

theorem cut_exists (text : Codes) : ∃ pieces, Cut text pieces ∧
    ∀ name, replaceAll placeholder name text = name.intercalate pieces := by
  induction text using replaceAll.induct placeholder with
  | case1 =>
    refine ⟨[[]], ⟨by simp, rfl, ?_⟩, fun name => ?_⟩
    · intro piece member
      rw [List.mem_singleton.mp member]
      decide
    · rw [replaceAll, List.intercalate_singleton]
  | case2 c rest begins ih =>
    obtain ⟨pieces, cut, replaced⟩ := ih
    obtain ⟨tail, parts⟩ := List.isPrefixOf_iff_prefix.mp begins.2
    have left : rest.drop (placeholder.length - 1) = tail := by
      rw [← List.drop_succ_cons, ← parts]
      rfl
    rw [left] at cut replaced
    have empty : Cut [] [[]] := ⟨by simp, rfl, by decide⟩
    refine ⟨[] :: pieces, parts ▸ cut_append empty cut, fun name => ?_⟩
    rw [replaceAll, if_pos begins, left, replaced, List.intercalate_cons_of_ne_nil cut.some]
    rfl
  | case3 c rest later ih =>
    obtain ⟨pieces, cut, replaced⟩ := ih
    obtain ⟨first, pieces, rfl⟩ := List.exists_cons_of_ne_nil cut.some
    have joined : c :: rest = placeholder.intercalate ((c :: first) :: pieces) := by
      rw [List.intercalate_cons_cons_left, ← cut.joined]
    refine ⟨(c :: first) :: pieces, ⟨by simp, joined, ?_⟩, fun name => ?_⟩
    · rw [List.forall_mem_cons, List.infix_cons_iff, not_or]
      refine ⟨⟨fun begins => later ⟨by decide, ?_⟩, cut.clear first List.mem_cons_self⟩,
        fun piece member => cut.clear piece (List.mem_cons_of_mem _ member)⟩
      rw [List.isPrefixOf_iff_prefix, joined]
      exact begins.trans (intercalate_begins ..)
    · rw [replaceAll, if_neg later, replaced, List.intercalate_cons_cons_left]

theorem gap_closed (same : placeholder ++ rest = gap ++ (placeholder ++ more))
    (clear : ¬ placeholder <:+: gap) : gap = [] := by
  rcases List.append_eq_append_iff.mp same with ⟨after, parts, -⟩ | ⟨overlap, parts, continued⟩
  · exact absurd (parts ▸ List.infix_append_left) clear
  · by_contra some
    cases overlap with
    | nil =>
      rw [List.append_nil] at parts
      exact clear (parts ▸ List.infix_refl _)
    | cons c overlap =>
      have opened : Code.char '[' = c := (List.cons.inj continued).1
      exact bracket_first parts some (opened ▸ List.mem_cons_self)

theorem first_same (same : first ++ (placeholder ++ rest) = second ++ (placeholder ++ more))
    (one : ¬ placeholder <:+: first) (other : ¬ placeholder <:+: second) : first = second := by
  rcases List.append_eq_append_iff.mp same with ⟨gap, rfl, left⟩ | ⟨gap, rfl, left⟩
  · have closed := gap_closed left fun inside => other (inside.trans (List.suffix_append ..).isInfix)
    rw [closed, List.append_nil]
  · have closed := gap_closed left fun inside => one (inside.trans (List.suffix_append ..).isInfix)
    rw [closed, List.append_nil]

theorem cut_single (cut : Cut text [piece]) : text = piece := by
  rw [cut.joined, List.intercalate_singleton]

theorem cut_behind (cut : Cut text (first :: second :: pieces)) :
    ∃ rest, text = first ++ (placeholder ++ rest) ∧ Cut rest (second :: pieces) := by
  refine ⟨_, ?_, by simp, rfl, fun piece member => cut.clear piece (List.mem_cons_of_mem _ member)⟩
  rw [cut.joined, List.intercalate_cons_cons, List.append_assoc]

theorem cut_same (one : Cut text pieces) (other : Cut text others) : others = pieces := by
  induction pieces generalizing text others with
  | nil => exact absurd rfl one.some
  | cons first pieces ih =>
    obtain ⟨second, others, rfl⟩ := List.exists_cons_of_ne_nil other.some
    have clear := one.clear first List.mem_cons_self
    have free := other.clear second List.mem_cons_self
    cases pieces with
    | nil =>
      cases others with
      | nil => rw [← cut_single one, ← cut_single other]
      | cons third others =>
        obtain ⟨rest, parts, -⟩ := cut_behind other
        rw [cut_single one] at parts
        exact absurd ⟨second, rest, by rw [parts, List.append_assoc]⟩ clear
    | cons third pieces =>
      obtain ⟨rest, parts, left⟩ := cut_behind one
      cases others with
      | nil =>
        rw [cut_single other] at parts
        exact absurd ⟨first, rest, by rw [parts, List.append_assoc]⟩ free
      | cons fourth others =>
        obtain ⟨more, again, remains⟩ := cut_behind other
        obtain rfl := first_same (parts.symm.trans again) clear free
        have rests : rest = more :=
          List.append_cancel_left (List.append_cancel_left (parts.symm.trans again))
        subst rests
        rw [ih left remains]

theorem cut_replaced {name : Codes} (cut : Cut text pieces) :
    replaceAll placeholder name text = name.intercalate pieces := by
  obtain ⟨found, made, replaced⟩ := cut_exists text
  rw [replaced, cut_same cut made]

theorem cut_places (cut : Cut text pieces) :
    text = front ++ placeholder ++ back ↔ ∃ earlier later, pieces = earlier ++ later ∧
      earlier ≠ [] ∧ later ≠ [] ∧ front = placeholder.intercalate earlier ∧
      back = placeholder.intercalate later := by
  constructor
  · rintro rfl
    obtain ⟨earlier, one, -⟩ := cut_exists front
    obtain ⟨later, other, -⟩ := cut_exists back
    exact ⟨earlier, later, cut_same (cut_append one other) cut, one.some, other.some, one.joined,
      other.joined⟩
  · rintro ⟨earlier, later, rfl, some, more, rfl, rfl⟩
    rw [cut.joined, intercalate_append _ some more]

theorem unnested_later (unnested : Unnested (front ++ text)) : Unnested text := by
  rintro before inside back rfl
  exact unnested (front ++ before) inside back (by simp)

theorem joined_clear {name : Codes} (bare : Code.char '[' ∉ name)
    (clear : ∀ piece ∈ pieces, ¬ placeholder <:+: piece)
    (unnested : Unnested (placeholder.intercalate pieces)) :
    ¬ placeholder <:+: name.intercalate pieces := by
  induction pieces with
  | nil =>
    rw [List.intercalate_nil]
    decide
  | cons first pieces ih =>
    have free := clear first List.mem_cons_self
    cases pieces with
    | nil => rwa [List.intercalate_singleton]
    | cons second pieces =>
      rw [List.intercalate_cons_cons] at unnested ⊢
      rw [List.append_assoc, List.infix_append_iff_ne_nil, List.infix_append_iff_ne_nil]
      rintro (inside | (inside | inside | ⟨front, back, begun, -, parts, ends, -⟩) |
        ⟨front, back, begun, more, parts, ⟨before, rfl⟩, -⟩)
      · exact free inside
      · exact bare (inside.subset (by decide))
      · exact ih (fun piece member => clear piece (List.mem_cons_of_mem _ member))
          (unnested_later unnested) inside
      · have begins : front <+: placeholder ++ [] := ⟨back, by rw [← parts, List.append_nil]⟩
        exact bare (ends.subset (bracket_opens begins begun))
      · -- The bracket that opens before the name is still open where the template has a placeholder.
        have still := bracket_last parts more
        obtain ⟨c, front, rfl⟩ := List.exists_cons_of_ne_nil begun
        obtain rfl : Code.char '[' = c := (List.cons.inj parts).1
        refine unnested before (front ++ codes "[controller")
          (placeholder.intercalate (second :: pieces)) ?_ ?_
          (List.mem_append_right _ (by decide))
        · have word : placeholder = codes "[controller" ++ [Code.char ']'] := rfl
          rw [word]
          simp only [List.append_assoc, List.cons_append, List.nil_append]
        · rw [List.mem_append, not_or]
          exact ⟨fun member => still (List.mem_cons_of_mem _ member), by decide⟩

theorem otherwise_kept {name : Codes} (lowered : word.map Code.lower = placeholder)
    (other : word ≠ placeholder)
    (inside : word <:+: placeholder.intercalate pieces) : word <:+: name.intercalate pieces := by
  have size : word.length = placeholder.length := by rw [← lowered, List.length_map]
  induction pieces with
  | nil => rwa [List.intercalate_nil] at inside ⊢
  | cons first pieces ih =>
    cases pieces with
    | nil => rwa [List.intercalate_singleton] at inside ⊢
    | cons second pieces =>
      rw [List.intercalate_cons_cons, List.append_assoc] at inside ⊢
      rw [List.infix_append_iff_ne_nil, List.infix_append_iff_ne_nil] at inside
      rcases inside with inside | (inside | inside | ⟨front, back, begun, more, rfl, ends, -⟩) |
        ⟨front, back, begun, more, rfl, -, begins⟩
      · exact inside.trans List.infix_append_left
      · exact absurd (inside.eq_of_length size) other
      · exact (ih inside).trans ((List.suffix_append ..).trans (List.suffix_append ..)).isInfix
      · have closed := List.mem_map_of_mem (f := Code.lower) (bracket_closes ends begun)
        rw [List.map_append] at lowered
        exact absurd closed (bracket_last lowered.symm (by simpa using more))
      · have opened := List.mem_map_of_mem (f := Code.lower) (bracket_opens begins more)
        rw [List.map_append] at lowered
        exact absurd opened (bracket_first lowered.symm (by simpa using begun))

theorem controllerName_kept (named : controllerName identifier = .ok name) :
    name.toList ⊆ identifier.toList := by
  obtain ⟨rest, cut, -, rfl⟩ := controllerName_cut.mp named
  obtain ⟨before, token, after, place, rfl⟩ := cutToken_exact.mp cut
  rw [place.parts, String.toList_ofList]
  intro c member
  rcases List.mem_append.mp member with front | back
  · exact List.mem_append_left _ (List.mem_append_left _ front)
  · exact List.mem_append_right _ back

theorem controllerName_bare (identifier : Text.isIdentifier className.toList = true)
    (named : controllerName className = .ok name) : Code.char '[' ∉ codes name := by
  intro member
  obtain ⟨c, listed, same⟩ := List.mem_map.mp member
  obtain rfl := Code.char.inj same
  exact Source.identifier_lacks (by decide) (by decide) identifier (controllerName_kept named listed)

-- No placeholder is spelled again when no bracket opens inside another.
theorem prefix_filled {table : Table} {known : WellKnown} {type : TypeDecl} {marker : Marker}
    {template : Codes} (identifier : Text.isIdentifier type.name.toList = true)
    (named : controllerName type.name = .ok name)
    (marked : table.findMarker type.markers known.routeMarker = some marker)
    (given : table.firstText marker = some template) (unnested : Unnested template) :
    ∃ filled pieces, describeController table known type = .ok ⟨name, some filled⟩ ∧
      Cut template pieces ∧
      (∀ others, Cut template others → others = pieces) ∧
      (∀ front back, template = front ++ placeholder ++ back ↔
        ∃ earlier later, pieces = earlier ++ later ∧ earlier ≠ [] ∧ later ≠ [] ∧
          front = placeholder.intercalate earlier ∧ back = placeholder.intercalate later) ∧
      filled = (codes name).intercalate pieces ∧ ¬ placeholder <:+: filled ∧
      (∀ word : Codes, word.map Code.lower = placeholder → word ≠ placeholder →
        word <:+: template → word <:+: filled) ∧
      (¬ placeholder <:+: template → filled = template) := by
  obtain ⟨pieces, cut, replaced⟩ := cut_exists template
  have shown : fillPlaceholder name template = (codes name).intercalate pieces := replaced _
  refine ⟨fillPlaceholder name template, pieces, ?_, cut, fun others => cut_same cut,
    fun front back => cut_places cut, shown, ?_, fun word lowered other inside => ?_, fun absent => ?_⟩
  · rw [describeController, named, marked]
    simp [given, bind, Except.bind, pure, Except.pure]
  · rw [shown]
    exact joined_clear (controllerName_bare identifier named) cut.clear (cut.joined ▸ unnested)
  · rw [cut.joined] at inside
    rw [shown]
    exact otherwise_kept lowered other inside
  · have whole : Cut template [template] :=
      ⟨by simp, by rw [List.intercalate_singleton], by simpa using absent⟩
    rw [fillPlaceholder, cut_replaced whole, List.intercalate_singleton]

def traceKnown : WellKnown := ⟨"mvc.Base", "mvc.Route", "mvc.Verb"⟩

def traceTemplate : Codes := "[controller]/[Controller]/x[controller]"

def traceRoute : Marker := ⟨"mvc.Route", [.value (.atom (.str traceTemplate))], [], 1⟩

def traceType : TypeDecl :=
  ⟨"app.TraceController", "TraceController", "app", [], [traceRoute], [], none, none, 1⟩

theorem trace_filled :
    describeController Table.empty traceKnown traceType =
      .ok ⟨"Trace", some "Trace/[Controller]/xTrace"⟩ ∧
    ¬ placeholder <:+: codes "Trace/[Controller]/xTrace" := by
  have identifier : Text.isIdentifier traceType.name.toList = true := by decide +kernel
  have named : controllerName traceType.name = .ok "Trace" := by decide
  have marked : Table.empty.findMarker traceType.markers traceKnown.routeMarker =
      some traceRoute := rfl
  have given : Table.empty.firstText traceRoute = some traceTemplate := rfl
  obtain ⟨filled, pieces, described, -, only, -, joined, clear, -, -⟩ :=
    prefix_filled identifier named marked given (by decide)
  obtain rfl := only [[], "/[Controller]/x", []] ⟨by decide, by decide, by decide⟩
  obtain rfl : filled = codes "Trace/[Controller]/xTrace" := joined
  exact ⟨described, clear⟩

-- A bracket that opens inside another can leave a placeholder behind.
example : fillPlaceholder "trol" "[con[controller]ler]" = codes "[controller]" := by cbv

end EndpointCatalog.Discovery
