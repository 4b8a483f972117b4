import EndpointCatalog.Proofs.ClassSites
import EndpointCatalog.Proofs.DescribedTypes
import Mathlib

namespace EndpointCatalog.Symbol

open Files (Path Tree)
open Source (Scope Stmt Expr Decorator EvalError)
open Text (qualify)

-- A type that says what a class statement says.
structure DescribesClass (scope : Scope) (path : Path) (home : String) (site : ClassSite)
    (type : TypeDecl) : Prop where
  qualname : type.qualname = site.qualname home
  name : site.names.getLast? = some type.name
  home : type.home = home
  bases : List.Forall₂ (RecordsBase scope) site.bases type.bases
  markers : MarkersOf scope site.decorators type.markers
  methods : List.Forall₂ (DescribesFunction scope) (functionsOf site.body) type.methods
  parameters : type.parameters =
    (constructorOf? site.body).map fun head => constructorParameters head.parameters
  path : type.path = some path
  line : type.line = site.line

section

variable {scope : Scope} {path : Path} {site : ClassSite} {body : List Stmt}

theorem declaration_describes (named : site.names ≠ []) (same : scope.home = home)
    (made : site.declaration scope path home = .ok type) :
    DescribesClass scope path home site type := by
  obtain ⟨markers, methods, marked, described, rfl⟩ := ofClass_parts made
  obtain ⟨names, own, parts⟩ : ∃ names own, site.names = names ++ [own] :=
    ⟨_, _, (List.dropLast_concat_getLast named).symm⟩
  refine ⟨?_, ?_, same, ?_, marked, described, rfl, rfl, rfl⟩
  · simp [ClassSite.qualname, parts]
  · simp [parts]
  · rw [List.forall₂_map_right_iff, List.forall₂_same]
    exact fun base _ => baseName_records

-- Whether the arguments of the decorators of a class and of its methods can be computed.
def ClassSite.Computes (site : ClassSite) (scope : Scope) : Prop :=
  Symbol.Computes scope (site.decorators ++ methodDecorators site.body)

theorem declaration_isOk :
    (site.declaration scope path outer).isOk = true ↔ site.Computes scope := by
  rw [ClassSite.declaration, ofClass_isOk, ClassSite.Computes, computes_append]

theorem accepted_front {items : List ClassSite}
    (sorted : items.Pairwise fun first second => first.place < second.place) :
    ∃ front, front.Sublist items ∧
      List.Forall₂ (fun site type => site.declaration scope path outer = .ok type) front
        (accepted (items.map (·.declaration scope path outer))) ∧
      ∀ site, site ∈ front ↔ site ∈ items ∧ site.Computes scope ∧
        ∀ other ∈ items, other.place < site.place → other.Computes scope := by
  induction items with
  | nil => exact ⟨[], .slnil, .nil, by simp⟩
  | cons first rest ih =>
    obtain ⟨before, later⟩ := List.pairwise_cons.mp sorted
    cases own : first.declaration scope path outer with
    | error e =>
      have blocked : ¬ first.Computes scope := by
        rw [← declaration_isOk, own]
        exact Bool.false_ne_true
      refine ⟨[], List.nil_sublist _, ?_, fun site => ?_⟩
      · rw [List.map_cons, own]
        exact .nil
      · simp only [List.not_mem_nil, false_iff]
        rintro ⟨member, computes, each⟩
        rcases List.mem_cons.mp member with rfl | behind
        · exact blocked computes
        · exact blocked (each first List.mem_cons_self (before site behind))
    | ok type =>
      have computes : first.Computes scope := by
        rw [← declaration_isOk, own]
        rfl
      have alone := sorted_alone before fun _ _ => List.lt_asymm
      obtain ⟨front, sub, made, exactly⟩ := ih later
      refine ⟨first :: front, sub.cons_cons _, ?_, fun site => ?_⟩
      · rw [List.map_cons, own]
        exact .cons own made
      · rw [List.mem_cons, exactly site, List.mem_cons, List.forall_mem_cons]
        constructor
        · rintro (rfl | ⟨member, own, each⟩)
          · refine ⟨.inl rfl, computes, fun _ => computes, fun other member early => ?_⟩
            exact absurd early (alone other (List.mem_cons_of_mem _ member))
          · exact ⟨.inr member, own, fun _ => computes, each⟩
        · rintro ⟨rfl | member, own, -, each⟩
          · exact .inl rfl
          · exact .inr ⟨member, own, each⟩

theorem add_free {table : Table} {type : TypeDecl} :
    (table.add type).declares name = false ↔ table.declares name = false ∧ type.qualname ≠ name := by
  rw [← Bool.not_eq_true, Table.declares_add, not_or, Bool.not_eq_true, ne_comm]

-- The table has no type of these names before.
theorem adds_first {table : Table} {items : List ClassSite} {types : List TypeDecl}
    {describes : ClassSite → TypeDecl → Prop} (each : List.Forall₂ describes items types)
    (named : ∀ site ∈ items, ∀ type, describes site type → type.qualname = site.qualname home)
    (sorted : items.Pairwise fun first second => first.place < second.place) :
    ∃ found added, found.Sublist items ∧
      (types.foldl Table.add table).types = table.types ++ added ∧
      List.Forall₂ describes found added ∧
      ∀ site, site ∈ found ↔ site ∈ items ∧ table.declares (site.qualname home) = false ∧
        ∀ other ∈ items, other.place < site.place → other.qualname home ≠ site.qualname home := by
  induction each generalizing table with
  | nil => exact ⟨[], [], .slnil, by simp, .nil, by simp⟩
  | @cons first type rest others own _ ih =>
    obtain ⟨before, later⟩ := List.pairwise_cons.mp sorted
    have same := named first List.mem_cons_self type own
    -- The induction goes on with the table that has the first type, whose name is taken then.
    obtain ⟨found, added, sub, grown, said, exactly⟩ :=
      @ih (table.add type) (fun site member => named site (List.mem_cons_of_mem _ member)) later
    have behind : ∀ site, site ∈ found ↔ site ∈ rest ∧ table.declares (site.qualname home) = false ∧
        ∀ other ∈ first :: rest, other.place < site.place →
          other.qualname home ≠ site.qualname home := by
      intro site
      rw [exactly site, add_free, same, List.forall_mem_cons, and_assoc]
      refine and_congr_right fun member => ?_
      simp only [before site member, forall_const]
    rw [List.foldl_cons, grown, Table.types_add, same]
    by_cases taken : table.declares (first.qualname home) = true
    · refine ⟨found, added, sub.cons _, by rw [if_pos taken], said, fun site => ?_⟩
      rw [behind site, List.mem_cons]
      refine and_congr_left fun ⟨free, _⟩ => ⟨.inr, ?_⟩
      rintro (rfl | member)
      · rw [taken] at free
        cases free
      · exact member
    · have alone := sorted_alone before fun _ _ => List.lt_asymm
      refine ⟨first :: found, type :: added, sub.cons_cons _, ?_, .cons own said, fun site => ?_⟩
      · rw [if_neg taken, List.append_assoc, List.singleton_append]
      · rw [List.mem_cons, List.mem_cons, behind site]
        constructor
        · rintro (rfl | ⟨member, free⟩)
          · exact ⟨.inl rfl, by simpa using taken, fun other member early =>
              absurd early (alone other member)⟩
          · exact ⟨.inr member, free⟩
        · rintro ⟨rfl | member, free⟩
          · exact .inl rfl
          · exact .inr ⟨member, free⟩

end

-- Only the first statement of each name becomes a type, as far as it and all in front of it can be
-- computed.
structure Declares (scope : Scope) (path : Path) (home : String) (body : List Stmt)
    (found : List ClassSite) (types : List TypeDecl) : Prop where
  described : List.Forall₂ (DescribesClass scope path home) found types
  ordered : found.Pairwise fun first second => first.place < second.place
  exactly : ∀ site, site ∈ found ↔ FirstOfName home body site ∧ site.Computes scope ∧
    ∀ other, HasClass body other → other.place < site.place → other.Computes scope
  distinct : (types.map (·.qualname)).Nodup
  enclosing : ∀ before site after outer rest, found = before ++ site :: after →
    site.names = outer ++ rest → outer ≠ [] → rest ≠ [] →
      ∃ around ∈ before, around.qualname home = outer.foldl qualify home

section

variable {scope : Scope} {path : Path} {table : Table} {body : List Stmt}

theorem types_recordAll {types : List TypeDecl} :
    table.recordAll (types.map .declared) = types.foldl Table.add table := by
  rw [Table.recordAll, List.foldl_map]
  rfl

theorem addModule_adds (opened : Scope.ofModule home (path.name = "__init__.py") body = .ok scope) :
    table.addModule path home body =
      ((accepted (declarations scope path home body)).foldl Table.add (table.addImports home scope),
        (refusal? (declarations scope path home body)).map fun _ => .wholeTooLarge) := by
  have added : (table.addImports home scope).addAll (declarations scope path home body) = _ :=
    Table.addAll_accepted
  rw [types_recordAll] at added
  unfold Table.addImports at added
  unfold Table.addModule Table.addImports
  rw [opened]
  dsimp only
  rw [added]

theorem exactly_enclosing {found : List ClassSite} (sub : found.Sublist (sites body))
    (exactly : ∀ site, site ∈ found ↔ FirstOfName home body site ∧ site.Computes scope ∧
      ∀ other, HasClass body other → other.place < site.place → other.Computes scope)
    (parts : found = before ++ site :: after) (names : site.names = outer ++ rest)
    (around : outer ≠ []) (inside : rest ≠ []) :
    ∃ around ∈ before, around.qualname home = outer.foldl qualify home := by
  obtain ⟨own, -, each⟩ := (exactly site).mp (by simp [parts])
  obtain ⟨enclosing, held, rfl, above⟩ := enclosing_exists own.has names around inside
  obtain ⟨first, firsts, named, near⟩ : ∃ first, FirstOfName home body first ∧
      first.qualname home = enclosing.qualname home ∧ _ := first_exists held
  have early : first.place < site.place := by
    rcases near with rfl | nearer
    · exact above
    · exact List.lt_trans nearer above
  have listed : first ∈ found := (exactly first).mpr ⟨firsts, each first firsts.has early,
    fun other has before => each other has (List.lt_trans before early)⟩
  have sorted := (sites_sorted body).sublist sub
  rw [parts] at sorted listed
  exact ⟨first, sorted_front sorted (fun _ _ => List.lt_asymm) listed early, named⟩

theorem front_first {Fresh Computed : ClassSite → Prop} {front found : List ClassSite}
    (computed : ∀ site, site ∈ front ↔ HasClass body site ∧ Computed site ∧
      ∀ other, HasClass body other → other.place < site.place → Computed other)
    (firsts : ∀ site, site ∈ found ↔ site ∈ front ∧ Fresh site ∧
      ∀ other ∈ front, other.place < site.place → other.qualname home ≠ site.qualname home) :
    ∀ site, site ∈ found ↔ Fresh site ∧ FirstOfName home body site ∧ Computed site ∧
      ∀ other, HasClass body other → other.place < site.place → Computed other := by
  intro site
  rw [firsts, computed]
  constructor
  · rintro ⟨⟨has, own, each⟩, fresh, apart⟩
    refine ⟨fresh, ⟨has, fun other held early => apart other ?_ early⟩, own, each⟩
    exact (computed other).mpr ⟨held, each other held early,
      fun another held before => each another held (List.lt_trans before early)⟩
  · rintro ⟨fresh, ⟨has, apart⟩, own, each⟩
    exact ⟨⟨has, own, each⟩, fresh,
      fun other member early => apart other ((computed other).mp member).1 early⟩

theorem declaration_qualname {site : ClassSite} (named : site.names ≠ [])
    (made : site.declaration scope path outer = .ok type) : type.qualname = site.qualname outer := by
  obtain ⟨names, own, parts⟩ : ∃ names own, site.names = names ++ [own] :=
    ⟨_, _, (List.dropLast_concat_getLast named).symm⟩
  rw [ofClass_qualname made]
  simp [ClassSite.qualname, parts]

theorem types_addAll {entries : List (Except EvalError TypeDecl)} :
    (table.addAll entries).1 = (accepted entries).foldl Table.add table := by
  rw [Table.addAll_accepted, types_recordAll]

theorem addAll_collects (table : Table) (scope : Scope) (path : Path) (outer : String)
    (body : List Stmt) : ∃ found added, found.Sublist (sites body) ∧
      (table.addAll (declarations scope path outer body)).1.types = table.types ++ added ∧
      List.Forall₂ (fun site type => site.declaration scope path outer = .ok type) found added ∧
      ∀ site, site ∈ found ↔ table.declares (site.qualname outer) = false ∧
        FirstOfName outer body site ∧ site.Computes scope ∧
        ∀ other, HasClass body other → other.place < site.place → other.Computes scope := by
  obtain ⟨front, below, made, computed⟩ : ∃ front, List.Sublist front (sites body) ∧
      List.Forall₂ (fun site type => site.declaration scope path outer = .ok type) front
        (accepted ((sites body).map (·.declaration scope path outer))) ∧ _ :=
    accepted_front (sites_sorted body)
  rw [← declarations_sites] at made
  simp only [mem_sites] at computed
  have named : ∀ site ∈ front, ∀ type, site.declaration scope path outer = .ok type →
      type.qualname = site.qualname outer := fun site member type =>
    declaration_qualname (hasClass_place ((computed site).mp member).1).2
  obtain ⟨found, added, sub, grown, each, firsts⟩ := @adds_first outer table _ _ _ made named
    ((sites_sorted body).sublist below)
  refine ⟨found, added, sub.trans below, ?_, each, front_first computed firsts⟩
  rw [types_addAll]
  exact grown

theorem addModule_declares
    (fresh : ∀ site, HasClass body site → table.declares (site.qualname home) = false)
    (opened : Scope.ofModule home (path.name = "__init__.py") body = .ok scope) :
    ∃ found types, (table.addModule path home body).1.types = table.types ++ types ∧
      Declares scope path home body found types := by
  obtain ⟨found, types, sub, added, made, collected⟩ :=
    addAll_collects (table.addImports home scope) scope path home body
  rw [types_addAll, types_addImports] at added
  have free : ∀ site, HasClass body site →
      (table.addImports home scope).declares (site.qualname home) = false := by
    intro site has
    rw [Table.declares, Table.declared?, types_addImports]
    exact fresh site has
  have exactly : ∀ site, site ∈ found ↔ FirstOfName home body site ∧ site.Computes scope ∧
      ∀ other, HasClass body other → other.place < site.place → other.Computes scope := by
    intro site
    rw [collected]
    exact and_iff_right_of_imp fun own => free site own.1.has
  have described : List.Forall₂ (DescribesClass scope path home) found types := by
    have named : ∀ site ∈ found, site.names ≠ [] := fun site member =>
      (hasClass_place (mem_sites.mp (sub.subset member))).2
    refine ((List.forall₂_and_left _ _).mpr ⟨named, made⟩).imp ?_
    rintro site type ⟨named, made⟩
    exact declaration_describes named (Scope.ofModule_home opened) made
  refine ⟨found, types, ?_, described, (sites_sorted body).sublist sub, exactly, ?_, ?_⟩
  · rw [addModule_adds opened]
    exact added
  · have distinct := (table.addModule path home body).1.distinct
    rw [addModule_adds opened, added, List.map_append] at distinct
    exact (List.nodup_append.mp distinct).2.1
  · intro before site after outer rest
    exact exactly_enclosing sub exactly

end

-- A module with a constant too large to compute adds nothing.
theorem module_declares {table : Table} {path : Path} {body : List Stmt}
    (fresh : ∀ site, HasClass body site → table.declares (site.qualname home) = false) :
    (∀ (tree : Tree) content, tree.read path = .ok content → statementsOf? content = some body →
      table.takeFile tree path home = table.addModule path home body) ∧
    ((∃ value ∈ Scope.constantsOf body, value.TooLarge) →
      table.addModule path home body = (table, some .wholeTooLarge)) ∧
    ((∀ value ∈ Scope.constantsOf body, ¬ value.TooLarge) →
      ∃ scope, Scope.ofModule home (path.name = "__init__.py") body = .ok scope ∧
        ((table.addModule path home body).2 = none ↔
          ∀ site, HasClass body site → site.Computes scope) ∧
        ∃ found types, (table.addModule path home body).1.types = table.types ++ types ∧
          Declares scope path home body found types) := by
  refine ⟨fun tree content read parsed => takeFile_parsed read parsed, ?_, ?_⟩
  · rintro ⟨value, constant, large⟩
    cases opened : Scope.ofModule home (path.name = "__init__.py") body with
    | error e => rw [Table.addModule, opened]
    | ok scope =>
      have small := Source.Scope.ofModule_isOk.mp (Source.isOk_iff.mpr ⟨scope, opened⟩)
      exact absurd large (small value constant)
  · intro small
    obtain ⟨scope, opened⟩ := Source.isOk_iff.mp (Source.Scope.ofModule_isOk.mpr small)
    refine ⟨scope, opened, ?_, addModule_declares fresh opened⟩
    rw [addModule_adds opened, Option.map_eq_none_iff, refusal_none, declarations_sites]
    simp only [List.forall_mem_map, declaration_isOk, mem_sites]

def repeatedBody : List Stmt :=
  [.classDef 1 "Outer" [.call (.name "mixin") [] [], .name "Base"] []
      [.functionDef 2 true "list" ⟨[], ["self"], none, [], none⟩
          [⟨.call (.name "get") [.constant (.str "/all")] [], 2⟩] [.other],
        .functionDef 4 false "__init__" ⟨[], ["self", "path"], none, [], none⟩ [] [.other],
        .classDef 6 "Early" [] [] [.other]],
    .conditional (.name "flag") [.classDef 9 "Hidden" [] [] [.other]] [],
    .classDef 11 "Outer" [] [] [.classDef 12 "Late" [] [] [.other]]]

def repeatedPath : Path := ⟨.relative, ["m.py"]⟩

def againSite : ClassSite := ⟨[2], ["Outer"], 11, [], [], [.classDef 12 "Late" [] [] [.other]]⟩

def lateSite : ClassSite := ⟨[2, 0], ["Outer", "Late"], 12, [], [], [.other]⟩

theorem again_stands : HasClass repeatedBody againSite := .here rfl

theorem late_stands : HasClass repeatedBody lateSite := .inside rfl (.here rfl)

theorem late_first : FirstOfName "m" repeatedBody lateSite := by
  refine ⟨late_stands, fun other has before => ?_⟩
  have listed := mem_sites.mpr has
  simp [repeatedBody, sites, ClassSite.below, ClassSite.next] at listed
  rcases listed with rfl | rfl | rfl | rfl
  · decide
  · decide
  · decide
  · exact absurd before (List.lt_irrefl _)

-- The class below the second of the two is declared, and the second itself is not.
theorem repeated_declares :
    (∀ site, HasClass repeatedBody site → Table.empty.declares (site.qualname "m") = false) ∧
    (Table.empty.addModule repeatedPath "m" repeatedBody).1.types.map (·.qualname) =
      ["m.Outer", "m.Outer.Early", "m.Outer.Late"] ∧
    ∃ scope found, Declares scope repeatedPath "m" repeatedBody found
        (Table.empty.addModule repeatedPath "m" repeatedBody).1.types ∧
      lateSite ∈ found ∧ HasClass repeatedBody againSite ∧ againSite ∉ found := by
  have fresh : ∀ site, HasClass repeatedBody site →
      Table.empty.declares (site.qualname "m") = false := fun _ _ => rfl
  obtain ⟨-, -, whole⟩ := @module_declares "m" Table.empty repeatedPath repeatedBody fresh
  have none : Scope.constantsOf repeatedBody = [] := by cbv
  obtain ⟨scope, -, ended, found, types, added, declares⟩ := whole (by simp [none])
  have computes := ended.mp (by cbv)
  have same : (Table.empty.addModule repeatedPath "m" repeatedBody).1.types = types := added
  refine ⟨fresh, by cbv, scope, found, same ▸ declares, ?_, again_stands, fun listed => ?_⟩
  · exact (declares.exactly lateSite).mpr
      ⟨late_first, computes lateSite late_stands, fun other has _ => computes other has⟩
  · have first := ((declares.exactly againSite).mp listed).1
    exact first.first ⟨[0], ["Outer"], _, _, _, _⟩ (.here rfl) (by decide) rfl

def decoratedBody (argument : Expr) : List Stmt :=
  [.classDef 2 "A" [] [⟨.call (.name "d") [argument] [], 1⟩] [.other]]

theorem decorated_ends (large : argument.TooLarge) :
    Table.empty.addModule repeatedPath "m" (decoratedBody argument) =
      (Table.empty, some .wholeTooLarge) := by
  have opened : Scope.ofModule "m" (repeatedPath.name = "__init__.py") (decoratedBody argument) =
      .ok ⟨"m", "", [], ["A"], [], []⟩ := by cbv
  have unread : (Scope.literal ⟨"m", "", [], ["A"], [], []⟩ argument).isOk ≠ true := by
    simpa [Source.Scope.literal_isOk] using large
  have refused : ∃ e, declarations ⟨"m", "", [], ["A"], [], []⟩ repeatedPath "m"
      (decoratedBody argument) = [.error e] := by
    cases spelled : Scope.literal ⟨"m", "", [], ["A"], [], []⟩ argument with
    | ok value => simp [spelled, Except.isOk, Except.toBool] at unread
    | error e =>
      refine ⟨e, ?_⟩
      simp [decoratedBody, declarations, TypeDecl.ofClass, markersOf, Marker.ofDecorator,
        Scope.resolve, Source.bound?, spelled, bind, Except.bind]
  obtain ⟨e, refused⟩ := refused
  rw [addModule_adds opened, refused]
  rfl

theorem sum_tooLarge (infinite : (Decimal.Double.ofInt n).isInfinite = true) :
    (Expr.binary .add (.constant (.int n)) (.constant (.complex re im))).TooLarge := by
  simp [Expr.TooLarge, Expr.evaluate, Expr.signedNumber?, Expr.number?, Source.Atom.isNumber,
    Source.complexSum, Source.Atom.real?, infinite, bind, Except.bind]

def largeSum : Expr := .binary .add (.constant (.int (10 ^ 400))) (.constant (.complex .zero .zero))

theorem decorated_lost :
    FirstOfName "m" (decoratedBody largeSum) ⟨[0], ["A"], 2, [],
      [⟨.call (.name "d") [largeSum] [], 1⟩], [.other]⟩ ∧
    (∀ site, HasClass (decoratedBody largeSum) site →
      Table.empty.declares (site.qualname "m") = false) ∧
    Table.empty.addModule repeatedPath "m" (decoratedBody largeSum) =
      (Table.empty, some .wholeTooLarge) := by
  refine ⟨⟨.here rfl, fun other has before => ?_⟩, fun _ _ => rfl,
    decorated_ends (sum_tooLarge (by decide +kernel))⟩
  have listed := mem_sites.mpr has
  simp only [decoratedBody, sites, List.map_nil, List.append_nil, List.mem_singleton] at listed
  subst listed
  exact absurd before (List.lt_irrefl _)

end EndpointCatalog.Symbol
