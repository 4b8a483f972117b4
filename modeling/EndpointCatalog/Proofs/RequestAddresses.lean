import EndpointCatalog.Collection.Basic
import Mathlib.Data.List.DropRight

namespace EndpointCatalog.Collection

open Text (Code Codes codes)

variable {base bare url path : Codes} {outer own part : Option Codes}

def slash : Code := .char '/'

structure Trimmed (base bare : Codes) : Prop where
  parts : ∃ count, base = bare ++ List.replicate count slash
  ending : bare.getLast? ≠ some slash

theorem trimSlashes_dropped (base : Codes) : trimSlashes base = base.rdropWhile (· = slash) := rfl

theorem trimSlashes_trimmed (base : Codes) : Trimmed base (trimSlashes base) := by
  refine ⟨⟨(base.rtakeWhile (· = slash)).length, ?_⟩, fun ends => ?_⟩
  · have slashes : base.rtakeWhile (· = slash) =
        List.replicate (base.rtakeWhile (· = slash)).length slash := by
      refine List.eq_replicate_iff.mpr ⟨rfl, fun c member => ?_⟩
      simpa using List.mem_rtakeWhile_imp member
    rw [trimSlashes_dropped, ← slashes, List.rdropWhile_append_rtakeWhile]
  · rw [trimSlashes_dropped] at ends
    obtain ⟨front, parts⟩ := List.getLast?_eq_some_iff.mp ends
    have more : base.rdropWhile (· = slash) ≠ [] := by simp [parts]
    have last := List.rdropWhile_last_not (· = slash) base more
    simp [parts] at last

theorem trimmed_dropped (trimmed : Trimmed base bare) : bare = base.rdropWhile (· = slash) := by
  obtain ⟨⟨count, parts⟩, ending⟩ := trimmed
  rw [parts]
  clear parts
  induction count with
  | zero =>
    rw [List.replicate_zero, List.append_nil, eq_comm, List.rdropWhile_eq_self_iff]
    intro more slashed
    have last : bare.getLast? = some (bare.getLast more) := List.getLast?_eq_some_getLast more
    rw [of_decide_eq_true slashed] at last
    exact ending last
  | succ count ih =>
    rw [List.replicate_succ', ← List.append_assoc, List.rdropWhile_concat_pos _ _ _ (by simp)]
    exact ih

theorem trimmed_iff : Trimmed base bare ↔ bare = trimSlashes base := by
  constructor
  · exact trimmed_dropped
  · rintro rfl
    exact trimSlashes_trimmed base

def Silent (part : Option Codes) : Prop := part = none ∨ part = some []

-- A part that is empty counts as absent.
inductive RoutePath (outer own : Option Codes) : Codes → Prop where
  | both (first : outer = some before) (front : before ≠ []) (second : own = some after)
      (back : after ≠ []) : RoutePath outer own (before ++ slash :: after)
  | outer (first : outer = some before) (front : before ≠ []) (second : Silent own) :
      RoutePath outer own before
  | own (first : Silent outer) (second : own = some after) (back : after ≠ []) :
      RoutePath outer own after
  | neither (first : Silent outer) (second : Silent own) : RoutePath outer own []

theorem said_or_silent (part : Option Codes) :
    Silent part ∨ ∃ said, part = some said ∧ said ≠ [] := by
  cases part with
  | none => exact .inl (.inl rfl)
  | some said =>
    by_cases empty : said = []
    · exact .inl (.inr (by rw [empty]))
    · exact .inr ⟨said, rfl, empty⟩

theorem silent_kept (silent : Silent part) (parts : List (Option Codes)) :
    ((part :: parts).filterMap id).filter (· ≠ []) = (parts.filterMap id).filter (· ≠ []) := by
  rcases silent with rfl | rfl <;> rfl

theorem said_kept {said : Codes} (front : said ≠ []) (parts : List (Option Codes)) :
    ((some said :: parts).filterMap id).filter (· ≠ []) =
      said :: (parts.filterMap id).filter (· ≠ []) := by
  simp [front]

theorem routePath_exists (outer own : Option Codes) : ∃ path, RoutePath outer own path := by
  rcases said_or_silent outer with first | ⟨before, first, front⟩ <;>
    rcases said_or_silent own with second | ⟨after, second, back⟩
  · exact ⟨_, .neither first second⟩
  · exact ⟨_, .own first second back⟩
  · exact ⟨_, .outer first front second⟩
  · exact ⟨_, .both first front second back⟩

theorem routePath_iff : RoutePath outer own path ↔ path = routePath outer own := by
  have made {path : Codes} (spelled : RoutePath outer own path) : path = routePath outer own := by
    unfold routePath
    cases spelled with
    | @both before after first front second back =>
      rw [first, second, said_kept front, said_kept back]
      show before ++ slash :: after = before ++ slash :: (after ++ [])
      rw [List.append_nil]
    | outer first front second =>
      rw [first, said_kept front, silent_kept second]
      exact (List.append_nil path).symm
    | own first second back =>
      rw [second, silent_kept first, said_kept back]
      exact (List.append_nil path).symm
    | neither first second =>
      rw [silent_kept first, silent_kept second]
      rfl
  refine ⟨made, ?_⟩
  rintro rfl
  obtain ⟨path, spelled⟩ := routePath_exists outer own
  rwa [← made spelled]

def Address (base : Codes) (outer own : Option Codes) (url : Codes) : Prop :=
  ∃ bare path, Trimmed base bare ∧ RoutePath outer own path ∧ url = bare ++ slash :: path

theorem address_iff : Address base outer own url ↔ url = buildUrl base outer own := by
  have joined : buildUrl base outer own = trimSlashes base ++ slash :: routePath outer own := by
    rw [buildUrl, List.append_assoc]
    rfl
  simp [Address, trimmed_iff, routePath_iff, joined]

end EndpointCatalog.Collection
