import EndpointCatalog.Proofs.Intake
import Mathlib

namespace EndpointCatalog.Symbol

open Files (Path)
open Source (Scope Stmt Expr Decorator EvalError)
open Text (qualify)

-- Its own index and its own name come last.
structure ClassSite where
  place : List Nat
  names : List String
  line : Nat
  bases : List Expr
  decorators : List Decorator
  body : List Stmt

namespace ClassSite

def below (site : ClassSite) (index : Nat) (name : String) : ClassSite :=
  { site with place := index :: site.place, names := name :: site.names }

def next (site : ClassSite) : ClassSite := { site with place := site.place.modifyHead (· + 1) }

def qualname (site : ClassSite) (home : String) : String := site.names.foldl qualify home

end ClassSite

-- The class statements that a body leads to through bodies of classes only.
inductive HasClass : List Stmt → ClassSite → Prop where
  | here (found : body[index]? = some (.classDef line name bases decorators block)) :
      HasClass body ⟨[index], [name], line, bases, decorators, block⟩
  | inside (found : body[index]? = some (.classDef line name bases decorators block))
      (below : HasClass block site) : HasClass body (site.below index name)

-- A class is in front of those below it.
def sites : List Stmt → List ClassSite
  | [] => []
  | .classDef line name bases decorators body :: rest =>
    ⟨[0], [name], line, bases, decorators, body⟩ :: (sites body).map (·.below 0 name) ++
      (sites rest).map ClassSite.next
  | _ :: rest => (sites rest).map ClassSite.next

theorem hasClass_cons :
    HasClass (statement :: rest) site ↔
      (∃ line name bases decorators block,
        statement = .classDef line name bases decorators block ∧
          (site = ⟨[0], [name], line, bases, decorators, block⟩ ∨
            ∃ nested, HasClass block nested ∧ site = nested.below 0 name)) ∨
      ∃ later, HasClass rest later ∧ site = later.next := by
  constructor
  · intro has
    cases has with
    | @here _ index _ _ _ _ _ found =>
      cases index with
      | zero =>
        cases found
        exact .inl ⟨_, _, _, _, _, rfl, .inl rfl⟩
      | succ index => exact .inr ⟨_, .here found, rfl⟩
    | @inside _ index _ _ _ _ _ _ found below =>
      cases index with
      | zero =>
        cases found
        exact .inl ⟨_, _, _, _, _, rfl, .inr ⟨_, below, rfl⟩⟩
      | succ index => exact .inr ⟨_, .inside found below, rfl⟩
  · rintro (⟨line, name, bases, decorators, block, rfl, rfl | ⟨nested, below, rfl⟩⟩ | ⟨later, behind, rfl⟩)
    · exact .here rfl
    · exact .inside rfl below
    · cases behind with
      | @here _ index _ _ _ _ _ found =>
        have moved : (statement :: rest)[index + 1]? = _ := found
        exact .here moved
      | @inside _ index _ _ _ _ _ _ found below =>
        have moved : (statement :: rest)[index + 1]? = _ := found
        exact .inside moved below

theorem mem_sites : site ∈ sites body ↔ HasClass body site := by
  fun_induction sites body generalizing site with
  | case1 =>
    constructor
    · intro member
      cases member
    · rintro (found | ⟨found, -⟩)
      · cases found
      · cases found
  | case2 line name bases decorators body rest below behind =>
    rw [hasClass_cons]
    simp only [List.cons_append, List.mem_cons, List.mem_append, List.mem_map, below, behind]
    constructor
    · rintro (rfl | ⟨nested, held, rfl⟩ | ⟨later, held, rfl⟩)
      · exact .inl ⟨_, _, _, _, _, rfl, .inl rfl⟩
      · exact .inl ⟨_, _, _, _, _, rfl, .inr ⟨nested, held, rfl⟩⟩
      · exact .inr ⟨later, held, rfl⟩
    · rintro (⟨_, _, _, _, _, ⟨⟩, rfl | ⟨nested, held, rfl⟩⟩ | ⟨later, held, rfl⟩)
      · exact .inl rfl
      · exact .inr (.inl ⟨nested, held, rfl⟩)
      · exact .inr (.inr ⟨later, held, rfl⟩)
  | case3 statement rest other behind =>
    rw [hasClass_cons]
    simp only [List.mem_map, behind]
    constructor
    · rintro ⟨later, held, rfl⟩
      exact .inr ⟨later, held, rfl⟩
    · rintro (⟨_, _, _, _, _, rfl, -⟩ | ⟨later, held, rfl⟩)
      · exact absurd rfl (other _ _ _ _ _)
      · exact ⟨later, held, rfl⟩

theorem hasClass_place (has : HasClass body site) : site.place ≠ [] ∧ site.names ≠ [] := by
  cases has with
  | here => simp
  | inside => simp [ClassSite.below]

theorem next_place {first second : ClassSite} :
    first.next.place < second.next.place ↔ first.place < second.place := by
  simp only [ClassSite.next]
  cases first.place <;> cases second.place <;> simp [List.cons_lt_cons_iff]

theorem below_place {first second : ClassSite} :
    (first.below index name).place < (second.below index name).place ↔ first.place < second.place := by
  simp [ClassSite.below]

theorem below_next {nested later : ClassSite} (some : later.place ≠ []) :
    (nested.below 0 name).place < later.next.place := by
  obtain ⟨index, place, parts⟩ := List.exists_cons_of_ne_nil some
  simp [ClassSite.below, ClassSite.next, parts, List.cons_lt_cons_iff]

theorem sites_sorted (body : List Stmt) :
    (sites body).Pairwise fun first second => first.place < second.place := by
  fun_induction sites body with
  | case1 => exact .nil
  | case2 line name bases decorators block rest below behind =>
    have later : ∀ site ∈ (sites rest).map ClassSite.next, ∃ other : ClassSite,
        other.place ≠ [] ∧ site = other.next := by
      intro site member
      obtain ⟨other, held, rfl⟩ := List.mem_map.mp member
      exact ⟨other, (hasClass_place (mem_sites.mp held)).1, rfl⟩
    rw [List.pairwise_append]
    refine ⟨List.pairwise_cons.mpr ⟨?_, ?_⟩, ?_, ?_⟩
    · intro site member
      obtain ⟨nested, held, rfl⟩ := List.mem_map.mp member
      obtain ⟨index, place, parts⟩ := List.exists_cons_of_ne_nil (hasClass_place (mem_sites.mp held)).1
      simp [ClassSite.below, parts]
    · rw [List.pairwise_map]
      exact below.imp below_place.mpr
    · rw [List.pairwise_map]
      exact behind.imp next_place.mpr
    · intro first before second member
      obtain ⟨other, some, rfl⟩ := later second member
      rcases List.mem_cons.mp before with rfl | nested
      · have own : (ClassSite.below ⟨[], [], line, bases, decorators, block⟩ 0 name).place <
          other.next.place := below_next some
        exact own
      · obtain ⟨site, -, rfl⟩ := List.mem_map.mp nested
        exact below_next some
  | case3 statement rest other behind =>
    rw [List.pairwise_map]
    exact behind.imp next_place.mpr

namespace ClassSite

def declaration (site : ClassSite) (scope : Scope) (path : Path) (outer : String) :
    Except EvalError TypeDecl :=
  TypeDecl.ofClass scope path (site.names.dropLast.foldl qualify outer) site.line
    (site.names.getLastD "") site.bases site.decorators site.body

theorem declaration_below {site : ClassSite} (some : site.names ≠ []) :
    (site.below index name).declaration scope path outer =
      site.declaration scope path (qualify outer name) := by
  obtain ⟨first, names, parts⟩ := List.exists_cons_of_ne_nil some
  simp [declaration, below, parts]

end ClassSite

theorem declarations_sites {scope : Scope} {path : Path} :
    declarations scope path outer body = (sites body).map (·.declaration scope path outer) := by
  fun_induction declarations scope path outer body with
  | case1 outer => rw [sites, List.map_nil]
  | case2 outer line name bases decorators body rest below behind =>
    rw [sites, List.map_append, List.map_cons, List.map_map, List.map_map, below, behind]
    have nested : (sites body).map ((·.declaration scope path outer) ∘ (·.below 0 name)) =
        (sites body).map (·.declaration scope path (qualify outer name)) := by
      refine List.map_congr_left fun site member => ?_
      exact ClassSite.declaration_below (hasClass_place (mem_sites.mp member)).2
    rw [nested]
    rfl
  | case3 outer statement rest other behind =>
    rw [behind, sites, List.map_map]
    · rfl
    · exact other

theorem sorted_alone {α : Type} {before : α → α → Prop} {first : α} {rest : List α}
    (front : ∀ other ∈ rest, before first other) (apart : ∀ a b, before a b → ¬ before b a) :
    ∀ other ∈ first :: rest, ¬ before other first := by
  intro other member
  rcases List.mem_cons.mp member with rfl | behind
  · exact fun own => apart _ _ own own
  · exact apart _ _ (front other behind)

theorem sorted_front {α : Type} {before : α → α → Prop} {front back : List α} {item other : α}
    (sorted : (front ++ item :: back).Pairwise before) (apart : ∀ a b, before a b → ¬ before b a)
    (member : other ∈ front ++ item :: back) (early : before other item) : other ∈ front := by
  rcases List.mem_append.mp member with front | behind
  · exact front
  · have follow := (List.pairwise_cons.mp (List.pairwise_append.mp sorted).2.1).1
    exact absurd early (sorted_alone follow apart other behind)

-- The first of the class statements that declare one name.
structure FirstOfName (home : String) (body : List Stmt) (site : ClassSite) : Prop where
  has : HasClass body site
  first : ∀ other, HasClass body other → other.place < site.place →
    other.qualname home ≠ site.qualname home

theorem first_exists (has : HasClass body site) :
    ∃ first, FirstOfName home body first ∧ first.qualname home = site.qualname home ∧
      (first = site ∨ first.place < site.place) := by
  have member := mem_sites.mpr has
  cases found : (sites body).find? (fun other => other.qualname home = site.qualname home) with
  | none =>
    have missed := List.find?_eq_none.mp found site member
    simp at missed
  | some first =>
    obtain ⟨matched, front, back, parts, earlier⟩ := List.find?_eq_some_iff_append.mp found
    have same : first.qualname home = site.qualname home := by simpa using matched
    have sorted := sites_sorted body
    rw [parts] at sorted member
    refine ⟨first, ⟨mem_sites.mp (by simp [parts]), fun other held before => ?_⟩, same, ?_⟩
    · have listed := mem_sites.mpr held
      rw [parts] at listed
      rw [same]
      simpa using earlier other (sorted_front sorted (fun _ _ => List.lt_asymm) listed before)
    · rcases List.mem_append.mp member with early | late
      · have other := earlier site early
        simp at other
      · rcases List.mem_cons.mp late with rfl | behind
        · exact .inl rfl
        · exact .inr ((List.pairwise_cons.mp (List.pairwise_append.mp sorted).2.1).1 site behind)

theorem enclosing_exists (has : HasClass body site) (parts : site.names = outer ++ rest)
    (around : outer ≠ []) (inside : rest ≠ []) :
    ∃ enclosing, HasClass body enclosing ∧ enclosing.names = outer ∧
      enclosing.place < site.place := by
  induction has generalizing outer with
  | here found =>
    obtain ⟨first, outer, rfl⟩ := List.exists_cons_of_ne_nil around
    obtain ⟨last, rest, rfl⟩ := List.exists_cons_of_ne_nil inside
    simp at parts
  | inside found below ih =>
    obtain ⟨first, outer, rfl⟩ := List.exists_cons_of_ne_nil around
    simp only [ClassSite.below, List.cons_append, List.cons.injEq] at parts
    obtain ⟨rfl, parts⟩ := parts
    cases outer with
    | nil =>
      obtain ⟨place, others, own⟩ := List.exists_cons_of_ne_nil (hasClass_place below).1
      exact ⟨_, .here found, rfl, by simp [ClassSite.below, own]⟩
    | cons next outer =>
      obtain ⟨enclosing, held, names, before⟩ := ih parts (by simp)
      refine ⟨enclosing.below _ _, .inside found held, by simp [ClassSite.below, names], ?_⟩
      exact below_place.mpr before

end EndpointCatalog.Symbol
