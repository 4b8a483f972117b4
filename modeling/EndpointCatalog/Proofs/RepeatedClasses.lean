import EndpointCatalog.Proofs.DeclaredTypes

namespace EndpointCatalog.Symbol

open Files (Path)
open Source (Scope Stmt Expr Decorator EvalError)
open Text (qualify)

variable {table : Table} {scope : Scope} {path : Path} {outer name : String} {line : Nat}
  {bases : List Expr} {decorators : List Decorator} {body : List Stmt}

theorem add_taken {type : TypeDecl} (taken : table.declares type.qualname = true) :
    table.add type = table := dif_pos taken

theorem addAll_frame (table : Table) (entries : List (Except EvalError TypeDecl)) :
    (table.addAll entries).1.aliases = table.aliases ∧ (table.addAll entries).1.stars = table.stars ∧
      (table.addAll entries).1.skipped = table.skipped := by
  have skipped (table : Table) (type : TypeDecl) : (table.add type).skipped = table.skipped := by
    unfold Table.add
    split <;> rfl
  rw [types_addAll]
  exact ⟨foldl_keeps Table.aliases fun _ _ => Table.aliases_add,
    foldl_keeps Table.stars fun _ _ => Table.stars_add, foldl_keeps Table.skipped skipped⟩

theorem addAll_whole_iff :
    (table.addAll (declarations scope path outer body)).2 = none ↔
      ∀ site, HasClass body site → site.Computes scope := by
  rw [Table.addAll_accepted, refusal_none, declarations_sites]
  simp only [List.forall_mem_map, declaration_isOk, mem_sites]

section Statement

variable (scope : Scope) (path : Path) (line : Nat) (bases : List Expr) (decorators : List Decorator)
  (body : List Stmt)

-- The classes below are come to only when the decorators of the statement itself can be computed.
theorem addAll_repeated (taken : table.declares (qualify outer name) = true) :
    (Computes scope (decorators ++ methodDecorators body) →
      table.addAll (declarations scope path outer [.classDef line name bases decorators body]) =
        table.addAll (declarations scope path (qualify outer name) body)) ∧
    (¬ Computes scope (decorators ++ methodDecorators body) →
      ∃ e, table.addAll (declarations scope path outer [.classDef line name bases decorators body]) =
        (table, some e)) := by
  have settled : (TypeDecl.ofClass scope path outer line name bases decorators body).isOk = true ↔
      Computes scope (decorators ++ methodDecorators body) := by
    rw [ofClass_isOk, computes_append]
  rw [← settled]
  have parts : declarations scope path outer [.classDef line name bases decorators body] =
      TypeDecl.ofClass scope path outer line name bases decorators body ::
        declarations scope path (qualify outer name) body := by
    simp [declarations]
  rw [parts]
  cases made : TypeDecl.ofClass scope path outer line name bases decorators body with
  | ok type =>
    refine ⟨fun _ => ?_, fun refused => absurd rfl refused⟩
    have held : table.declares type.qualname = true := by rwa [ofClass_qualname made]
    rw [Table.addAll, add_taken held]
  | error e => exact ⟨fun computed => absurd computed Bool.false_ne_true, fun _ => ⟨e, rfl⟩⟩

end Statement

-- Whether a class below a statement is come to: nothing in front of it has decorators that cannot be
-- computed, nor has the statement or the class itself.
structure ComeTo (scope : Scope) (decorators : List Decorator) (body : List Stmt) (site : ClassSite) :
    Prop where
  around : Computes scope (decorators ++ methodDecorators body)
  own : site.Computes scope
  front : ∀ other, HasClass body other → other.place < site.place → other.Computes scope

theorem comeTo_earlier {first site : ClassSite} (come : ComeTo scope decorators body site)
    (has : HasClass body first) (near : first = site ∨ first.place < site.place) :
    ComeTo scope decorators body first := by
  rcases near with rfl | early
  · exact come
  · exact ⟨come.around, come.front first has early,
      fun other held before => come.front other held (List.lt_trans before early)⟩

-- What the classes below a statement add when its own name is taken.
structure AddsBelow (table : Table) (scope : Scope) (path : Path) (outer : String)
    (decorators : List Decorator) (body : List Stmt) (found : List ClassSite)
    (added : List TypeDecl) : Prop where
  made : List.Forall₂ (fun site type => site.declaration scope path outer = .ok type) found added
  ordered : found.Pairwise fun first second => first.place < second.place
  exactly : ∀ site, site ∈ found ↔ table.declares (site.qualname outer) = false ∧
    FirstOfName outer body site ∧ ComeTo scope decorators body site

theorem repeated_adds (scope : Scope) (path : Path) (line : Nat) (bases : List Expr)
    (decorators : List Decorator) (body : List Stmt)
    (taken : table.declares (qualify outer name) = true) :
    ∃ found added, (table.addAll (declarations scope path outer
        [.classDef line name bases decorators body])).1.types = table.types ++ added ∧
      AddsBelow table scope path (qualify outer name) decorators body found added := by
  obtain ⟨collected, refused⟩ := addAll_repeated scope path line bases decorators body taken
  by_cases around : Computes scope (decorators ++ methodDecorators body)
  · obtain ⟨found, added, sub, grown, made, exactly⟩ :=
      addAll_collects table scope path (qualify outer name) body
    refine ⟨found, added, by rw [collected around, grown], made, (sites_sorted body).sublist sub,
      fun site => ?_⟩
    rw [exactly]
    refine and_congr_right fun _ => and_congr_right fun _ => ?_
    exact ⟨fun come => ⟨around, come.1, come.2⟩, fun come => ⟨come.own, come.front⟩⟩
  · obtain ⟨e, ended⟩ := refused around
    refine ⟨[], [], by rw [ended, List.append_nil], .nil, .nil, fun site => ?_⟩
    simp only [List.not_mem_nil, false_iff]
    rintro ⟨-, -, come⟩
    exact around come.around

theorem addsBelow_nothing {found : List ClassSite} {added : List TypeDecl}
    (adds : AddsBelow table scope path outer decorators body found added) :
    added = [] ↔ ∀ site, HasClass body site → ComeTo scope decorators body site →
      table.declares (site.qualname outer) = true := by
  have alike : added = [] ↔ found = [] := by
    rw [← List.length_eq_zero_iff, ← List.length_eq_zero_iff, adds.made.length_eq]
  rw [alike]
  constructor
  · rintro rfl site has come
    obtain ⟨first, firsts, same, near⟩ :
        ∃ first, FirstOfName outer body first ∧ first.qualname outer = site.qualname outer ∧ _ :=
      first_exists has
    by_contra free
    have listed := (adds.exactly first).mpr ⟨by simpa [same] using free, firsts,
      comeTo_earlier come firsts.has near⟩
    cases listed
  · intro held
    refine List.eq_nil_iff_forall_not_mem.mpr fun site member => ?_
    obtain ⟨free, firsts, come⟩ := (adds.exactly site).mp member
    rw [held site firsts.has come] at free
    cases free

-- The types of the table stay as they were. What is added is made of the statements below alone, so
-- nothing is added exactly when the table has all of them.
theorem repeated_contributes (taken : table.declares (qualify outer name) = true) :
    ∃ after failure, table.addAll (declarations scope path outer
        [.classDef line name bases decorators body]) = (after, failure) ∧
      after.aliases = table.aliases ∧ after.stars = table.stars ∧ after.skipped = table.skipped ∧
      (∃ found added, after.types = table.types ++ added ∧
        AddsBelow table scope path (qualify outer name) decorators body found added) ∧
      (after.types = table.types ↔ ∀ site, HasClass body site → ComeTo scope decorators body site →
        table.declares (site.qualname (qualify outer name)) = true) ∧
      (failure = none ↔ Computes scope (decorators ++ methodDecorators body) ∧
        ∀ site, HasClass body site → site.Computes scope) := by
  obtain ⟨found, added, grown, adds⟩ := repeated_adds scope path line bases decorators body taken
  obtain ⟨aliases, stars, skipped⟩ := addAll_frame table
    (declarations scope path outer [.classDef line name bases decorators body])
  refine ⟨_, _, rfl, aliases, stars, skipped, ⟨found, added, grown, adds⟩, ?_, ?_⟩
  · rw [grown, List.append_right_eq_self, addsBelow_nothing adds]
  · obtain ⟨collected, refused⟩ := addAll_repeated scope path line bases decorators body taken
    by_cases around : Computes scope (decorators ++ methodDecorators body)
    · rw [collected around, addAll_whole_iff, and_iff_right around]
    · obtain ⟨e, ended⟩ := refused around
      simp [ended, around]

def plainScope : Scope := ⟨"m", "", [], ["A"], [], []⟩

def shortClass : Stmt := .classDef 1 "A" [] [] [.classDef 2 "Early" [] [] [.other]]

def againBody : List Stmt := [.classDef 4 "Early" [] [] [.other], .classDef 5 "Late" [] [] [.other]]

def shortTable : Table := (Table.empty.addAll (declarations plainScope repeatedPath "m" [shortClass])).1

def againTable : Table :=
  (shortTable.addAll (declarations plainScope repeatedPath "m" [.classDef 3 "A" [] [] againBody])).1

theorem late_below_first :
    shortTable.declares (qualify "m" "A") = true ∧
    shortTable.types.map (fun type => (type.qualname, type.line)) = [("m.A", 1), ("m.A.Early", 2)] ∧
    againTable.types.map (fun type => (type.qualname, type.line)) =
      [("m.A", 1), ("m.A.Early", 2), ("m.A.Late", 5)] ∧ againTable.types ≠ shortTable.types := by
  have first : shortTable.types.map (fun type => (type.qualname, type.line)) =
      [("m.A", 1), ("m.A.Early", 2)] := by cbv
  have second : againTable.types.map (fun type => (type.qualname, type.line)) =
      [("m.A", 1), ("m.A.Early", 2), ("m.A.Late", 5)] := by cbv
  refine ⟨by cbv, first, second, fun same => ?_⟩
  rw [same, first] at second
  cases second

theorem early_contributes :
    shortTable.declares (qualify "m" "A") = true ∧
    (shortTable.addAll (declarations plainScope repeatedPath "m"
      [.classDef 3 "A" [] [] [.classDef 4 "Early" [] [] [.other]]])).1.types = shortTable.types := by
  have taken : shortTable.declares (qualify "m" "A") = true := by cbv
  obtain ⟨after, failure, collected, -, -, -, -, unchanged, -⟩ :=
    @repeated_contributes shortTable plainScope repeatedPath "m" "A" 3 [] []
      [.classDef 4 "Early" [] [] [.other]] taken
  refine ⟨taken, ?_⟩
  rw [collected]
  refine unchanged.mpr fun site has _ => ?_
  have listed := mem_sites.mpr has
  simp only [sites, List.map_nil, List.append_nil, List.mem_singleton] at listed
  subst listed
  cbv

end EndpointCatalog.Symbol
