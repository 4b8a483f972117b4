import EndpointCatalog.Proofs.ClassSites
import EndpointCatalog.Proofs.ImportSpellings
import EndpointCatalog.Proofs.ModuleConstants
import EndpointCatalog.Proofs.StarPrecedence
import Mathlib

namespace EndpointCatalog.Source

open Text (qualify joinDots)

def ImportOrClass : Stmt → Prop
  | .importModules _ | .importFrom .. | .classDef .. => True
  | _ => False

def isClass : Stmt → Bool
  | .classDef .. => true
  | _ => false

namespace Scope

def bindings (home : String) (isPackage : Bool) : Stmt → List (String × String)
  | .classDef _ name _ _ _ => [(name, qualify home name)]
  | statement => (empty home isPackage).importEntries statement

-- The last statement that binds a name decides, and without one the name stands for itself.
def meaning (home : String) (isPackage : Bool) (statements : List Stmt) (name : String) : String :=
  (bound? name (statements.flatMap (bindings home isPackage)).reverse).getD name

end Scope

-- The statements of a module with the classes moved behind the others.
def classesLast (body : List Stmt) : List Stmt :=
  body.filter (!isClass ·) ++ body.filter isClass

theorem bound_flatMap {α : Type} {f g : Stmt → List (String × α)} {statements : List Stmt}
    (same : ∀ statement ∈ statements,
      bound? name (f statement).reverse = bound? name (g statement).reverse) :
    bound? name (statements.flatMap f).reverse = bound? name (statements.flatMap g).reverse := by
  induction statements with
  | nil => rfl
  | cons statement rest ih =>
    obtain ⟨own, others⟩ := List.forall_mem_cons.mp same
    rw [List.flatMap_cons, List.flatMap_cons, List.reverse_append, List.reverse_append, bound_append,
      bound_append, ih others, own]

theorem importOrClass_straight (plain : ImportOrClass statement) : Straight statement := by
  cases statement <;> first | exact plain.elim | trivial

theorem namesClass_unique (one : NamesClass first statement) (other : NamesClass second statement) :
    first = second := by
  cases statement with
  | classDef => exact one.symm.trans other
  | _ => exact one.elim

theorem mem_classesLast : statement ∈ classesLast body ↔ statement ∈ body := by
  simp only [classesLast, List.mem_append, List.mem_filter]
  cases isClass statement <;> simp

namespace Scope

variable {home : String} {isPackage : Bool} {scope : Scope} {statements body : List Stmt}

theorem bindings_class (names : NamesClass name statement) :
    bindings home isPackage statement = [(name, qualify home name)] := by
  cases statement with
  | classDef line own bases decorators body =>
    cases names
    rfl
  | _ => exact names.elim

theorem bindings_other (free : ¬ NamesClass name statement) :
    bound? name (bindings home isPackage statement).reverse =
      bound? name ((empty home isPackage).importEntries statement).reverse := by
  cases statement with
  | classDef line own bases decorators body =>
    have apart : own ≠ name := free
    simp [bindings, importEntries, bound?, apart]
  | _ => rfl

theorem bindings_free (free : ∀ statement ∈ statements, ¬ NamesClass name statement) :
    bound? name (statements.flatMap (bindings home isPackage)).reverse =
      lastImport home isPackage statements name :=
  bound_flatMap fun statement member => bindings_other (free statement member)

theorem importEntries_classesLast :
    (classesLast body).flatMap (scope.importEntries) = body.flatMap scope.importEntries := by
  have classes : ((body.filter isClass).flatMap scope.importEntries) = [] := by
    rw [List.flatMap_eq_nil_iff]
    intro statement member
    cases statement with
    | classDef => rfl
    | _ => simp [isClass] at member
  rw [classesLast, List.flatMap_append, classes, List.append_nil]
  clear classes
  induction body with
  | nil => rfl
  | cons statement rest ih =>
    rw [List.filter_cons, List.flatMap_cons, ← ih]
    cases statement <;> rfl

theorem meaning_free (free : ∀ statement ∈ body, ¬ NamesClass name statement) :
    meaning home isPackage (classesLast body) name =
      (lastImport home isPackage body name).getD name := by
  rw [meaning, bindings_free, lastImport, importEntries_classesLast, ← lastImport]
  intro statement member
  exact free statement (mem_classesLast.mp member)

theorem meaning_class (known : ∃ statement ∈ body, NamesClass name statement) :
    meaning home isPackage (classesLast body) name = qualify home name := by
  obtain ⟨statement, member, names⟩ := known
  have behind : bound? name ((body.filter isClass).flatMap (bindings home isPackage)).reverse =
      some (qualify home name) := by
    apply bound_agreed
    · rw [List.mem_reverse, List.mem_flatMap]
      refine ⟨statement, ?_, by simp [bindings_class names]⟩
      cases statement with
      | classDef => exact List.mem_filter.mpr ⟨member, rfl⟩
      | _ => exact names.elim
    · intro other entry
      obtain ⟨holder, held, entry⟩ := List.mem_flatMap.mp (List.mem_reverse.mp entry)
      cases holder with
      | classDef line own bases decorators block =>
        simp only [bindings, List.mem_singleton, Prod.mk.injEq] at entry
        rw [entry.1, entry.2]
      | _ => simp [isClass] at held
  rw [meaning, classesLast, List.flatMap_append, List.reverse_append, bound_append, behind]
  rfl

theorem starSources_none (flat : ∀ statement ∈ body, ImportOrClass statement)
    (opened : ofModule home isPackage body = .ok scope) : scope.starSources = [] := by
  rw [ofModule_stars opened,
    topLevel_straight fun statement member => importOrClass_straight (flat statement member),
    List.filterMap_eq_nil_iff]
  intro statement member
  have plain := flat statement member
  cases statement <;> first | exact plain.elim | rfl

-- A scope reads a module as if its classes stood behind its imports.
theorem resolve_meaning (flat : ∀ statement ∈ body, ImportOrClass statement)
    (opened : ofModule home isPackage body = .ok scope) :
    scope.resolve (.name name) = some (meaning home isPackage (classesLast body) name) := by
  have straight : topLevel body = body :=
    topLevel_straight fun statement member => importOrClass_straight (flat statement member)
  have classes : name ∈ scope.classes ↔ ∃ statement ∈ body, NamesClass name statement := by
    rw [ofModule_classes opened, straight]
  by_cases known : ∃ statement ∈ body, NamesClass name statement
  · rw [meaning_class known, resolve, if_pos (by simpa using classes.mpr known), ofModule_home opened]
  · have unknown : ¬ scope.classes.contains name = true := by simpa using mt classes.mp known
    have imports : bound? name scope.imports = lastImport home isPackage body name := by
      rw [ofModule_imports opened, moduleEntries, straight]
      rfl
    rw [meaning_free fun statement member names => known ⟨statement, member, names⟩, resolve,
      if_neg unknown, imports, starSources_none flat opened]
    cases lastImport home isPackage body name <;> rfl

theorem entries_class (names : NamesClass own statement) :
    (empty home isPackage).importEntries statement = [] := by
  cases statement with
  | classDef => rfl
  | _ => exact names.elim

theorem meaning_others (names : NamesClass own statement)
    (apart : own = name → ∃ earlier ∈ before, NamesClass name earlier) :
    meaning home isPackage (classesLast (before ++ statement :: after)) name =
      meaning home isPackage (classesLast (before ++ after)) name := by
  by_cases known : ∃ earlier ∈ before ++ after, NamesClass name earlier
  · obtain ⟨earlier, member, named⟩ := known
    have listed : earlier ∈ before ++ statement :: after := by
      simp only [List.mem_append, List.mem_cons] at member ⊢
      tauto
    rw [meaning_class ⟨earlier, member, named⟩, meaning_class ⟨earlier, listed, named⟩]
  · have free : ∀ earlier ∈ before ++ after, ¬ NamesClass name earlier :=
      fun earlier member named => known ⟨earlier, member, named⟩
    have own_free : ¬ NamesClass name statement := by
      intro named
      obtain ⟨earlier, member, names⟩ := apart (namesClass_unique names named)
      exact free earlier (List.mem_append_left _ member) names
    have whole : ∀ earlier ∈ before ++ statement :: after, ¬ NamesClass name earlier := by
      simp only [List.forall_mem_append, List.forall_mem_cons] at free ⊢
      exact ⟨free.1, own_free, free.2⟩
    have silent : lastImport home isPackage [statement] name = none := by
      rw [lastImport, List.flatMap_singleton, entries_class names]
      rfl
    rw [meaning_free whole, meaning_free free, ← List.singleton_append, lastImport_append,
      lastImport_append, silent, Option.or_none, ← lastImport_append]

theorem bindings_imported (entry : (name, target) ∈ bindings home isPackage statement)
    (free : ¬ NamesClass name statement) : name ∈ importedNames statement := by
  have imported : (name, target) ∈ (empty home isPackage).importEntries statement := by
    cases statement with
    | classDef line own bases decorators block =>
      obtain ⟨rfl, -⟩ := Prod.mk.inj (List.mem_singleton.mp entry)
      exact absurd rfl free
    | _ => exact entry
  rw [← (empty home isPackage).importEntries_names]
  exact List.mem_map_of_mem imported

theorem bound_ordered (names : NamesClass name statement)
    (silent : ∀ later ∈ rest, name ∉ importedNames later) :
    bound? name ((front ++ statement :: rest).flatMap (bindings home isPackage)).reverse =
      some (qualify home name) := by
  have behind : bound? name ((statement :: rest).flatMap (bindings home isPackage)).reverse =
      some (qualify home name) := by
    apply bound_agreed
    · simp [bindings_class names]
    · intro target entry
      obtain ⟨holder, held, entry⟩ := List.mem_flatMap.mp (List.mem_reverse.mp entry)
      by_cases named : NamesClass name holder
      · simpa [bindings_class named] using entry
      · rcases List.mem_cons.mp held with rfl | behind
        · exact absurd names named
        · exact absurd (bindings_imported entry named) (silent holder behind)
  rw [List.flatMap_append, List.reverse_append, bound_append, behind]
  rfl

-- In a module whose classes come last this is the order of the module.
theorem meaning_ordered
    (silent : ∀ statement ∈ after, ∀ entry ∈ bindings home isPackage statement, entry.1 ≠ name)
    (ordered : ∀ front statement rest, before = front ++ statement :: rest →
      NamesClass name statement → ∀ later ∈ rest, name ∉ importedNames later) :
    meaning home isPackage (classesLast (before ++ after)) name =
      meaning home isPackage before name := by
  by_cases known : ∃ statement ∈ before, NamesClass name statement
  · obtain ⟨statement, member, names⟩ := known
    obtain ⟨front, rest, parts⟩ := List.append_of_mem member
    rw [meaning_class ⟨statement, List.mem_append_left _ member, names⟩, meaning, parts,
      bound_ordered names (ordered front statement rest parts names)]
    rfl
  · have free : ∀ statement ∈ before, ¬ NamesClass name statement :=
      fun statement member names => known ⟨statement, member, names⟩
    have behind : ∀ statement ∈ after, ¬ NamesClass name statement := by
      intro statement member names
      exact silent statement member (name, qualify home name) (by simp [bindings_class names]) rfl
    have nothing : bound? name (after.flatMap (bindings home isPackage)).reverse = none := by
      refine bound_absent fun entry member => ?_
      obtain ⟨statement, held, entry⟩ := List.mem_flatMap.mp (List.mem_reverse.mp member)
      exact silent statement held _ entry
    rw [meaning_free (List.forall_mem_append.mpr ⟨free, behind⟩), lastImport_append,
      ← bindings_free behind, nothing, Option.none_or, meaning, bindings_free free]

theorem meaning_named (named : name ≠ "")
    (targets : ∀ statement ∈ body, ∀ entry ∈ (empty home isPackage).importEntries statement,
      entry.2 ≠ "") :
    meaning home isPackage (classesLast body) name ≠ "" := by
  by_cases known : ∃ statement ∈ body, NamesClass name statement
  · rw [meaning_class known, qualify]
    split
    · exact named
    · intro empty
      simpa using congrArg String.length empty
  · rw [meaning_free fun statement member names => known ⟨statement, member, names⟩]
    cases bound : lastImport home isPackage body name with
    | none => exact named
    | some target =>
      obtain ⟨statement, member, entry⟩ :=
        List.mem_flatMap.mp (List.mem_reverse.mp (bound_mem bound))
      exact targets statement member _ entry

end Scope

end EndpointCatalog.Source

namespace EndpointCatalog.Symbol

open Files (Path)
open Source (Scope Stmt Expr Decorator ImportOrClass NamesClass importedNames classesLast attributes)
open Source.Scope (bindings meaning resolve_meaning meaning_others meaning_ordered meaning_named
  resolve_attributes)
open Text (joinDots)

-- What a type keeps of an expression of its class statement, as a base and as a decorator with or
-- without arguments.
structure Records (scope : Scope) (bases : List Expr) (decorators : List Decorator) (type : TypeDecl)
    (expr : Expr) (name : String) : Prop where
  base : ∀ place : Nat, bases[place]? = some expr → type.bases[place]? = some name
  marker : ∀ decorator ∈ decorators, typeExpr decorator.expr = expr →
    ∃ marker, (decorator, marker) ∈ markedOf scope decorators type.markers ∧ marker.typeName = name

theorem zip_exists {α β : Type} {first : List α} {second : List β} {a : α}
    (same : first.length = second.length) (member : a ∈ first) : ∃ b, (a, b) ∈ first.zip second := by
  obtain ⟨place, inside, rfl⟩ := List.mem_iff_getElem.mp member
  refine ⟨second[place], List.mem_iff_getElem.mpr ⟨place, ?_, List.getElem_zip⟩⟩
  rw [List.length_zip]
  omega

theorem made_records {scope : Scope} {path : Path}
    (made : TypeDecl.ofClass scope path outer line own bases decorators block = .ok type)
    (resolved : scope.resolve expr = some name) (named : name ≠ "") :
    Records scope bases decorators type expr name := by
  obtain ⟨markers, methods, marked, -, rfl⟩ := ofClass_parts made
  refine ⟨fun place found => ?_, fun decorator member same => ?_⟩
  · simp [found, baseName, resolved, named]
  · have naming : decorator ∈ namingDecorators scope decorators :=
      List.mem_filter.mpr ⟨member, by simp [same, resolved]⟩
    obtain ⟨marker, pair⟩ := zip_exists marked.length_eq naming
    refine ⟨marker, pair, ?_⟩
    have told := (markedOf_marks marked pair).typeName
    rw [same, resolved] at told
    exact (Option.some.inj told).symm

theorem hasClass_top (has : HasClass body site) (top : site.place.head? = some index) :
    ∃ statement own, body = body.take index ++ statement :: body.drop (index + 1) ∧
      NamesClass own statement ∧ site.names.head? = some own := by
  have split : ∀ statement, body[index]? = some statement →
      body = body.take index ++ statement :: body.drop (index + 1) := by
    intro statement found
    obtain ⟨inside, rfl⟩ := List.getElem?_eq_some_iff.mp found
    rw [List.getElem_cons_drop, List.take_append_drop]
  cases has with
  | here found =>
    obtain rfl := Option.some.inj top
    exact ⟨_, _, split _ found, rfl, rfl⟩
  | inside found =>
    obtain rfl := Option.some.inj top
    exact ⟨_, _, split _ found, rfl, rfl⟩

-- What the statements in front of the class make of a name is meant only when none behind it binds
-- the name and no import of it follows a class of that name. For a class inside another one, the
-- outermost one counts.
theorem names_recorded {scope : Scope} {path : Path} {site : ClassSite} {names : List String}
    (flat : ∀ statement ∈ body, ImportOrClass statement)
    (opened : Scope.ofModule home isPackage body = .ok scope)
    (has : HasClass body site) (top : site.place.head? = some index)
    (made : site.declaration scope path home = .ok type) (named : name ≠ "")
    (targets : ∀ statement ∈ body,
      ∀ entry ∈ (Scope.empty home isPackage).importEntries statement, entry.2 ≠ "")
    (apart : site.names.head? = some name → ∃ earlier ∈ body.take index, NamesClass name earlier) :
    Records scope site.bases site.decorators type (attributes (.name name) names)
      (joinDots (meaning home isPackage (classesLast (body.eraseIdx index)) name :: names)) ∧
    ((∀ statement ∈ body.drop (index + 1), ∀ entry ∈ bindings home isPackage statement,
        entry.1 ≠ name) →
      (∀ front statement rest, body.take index = front ++ statement :: rest →
        NamesClass name statement → ∀ later ∈ rest, name ∉ importedNames later) →
      meaning home isPackage (classesLast (body.eraseIdx index)) name =
        meaning home isPackage (body.take index) name) := by
  rw [List.eraseIdx_eq_take_drop_succ]
  refine ⟨?_, meaning_ordered⟩
  obtain ⟨statement, own, parts, own_named, first⟩ := hasClass_top has top
  have start : scope.resolve (.name name) =
      some (meaning home isPackage (classesLast (body.take index ++ body.drop (index + 1))) name) := by
    rw [resolve_meaning flat opened, parts, meaning_others own_named, ← parts]
    rintro rfl
    exact apart first
  have some : meaning home isPackage
      (classesLast (body.take index ++ body.drop (index + 1))) name ≠ "" := by
    refine meaning_named named fun statement member => targets statement ?_
    rcases List.mem_append.mp member with front | back
    · exact List.mem_of_mem_take front
    · exact List.mem_of_mem_drop back
  refine made_records made (resolve_attributes start some) ?_
  cases names with
  | nil => exact some
  | cons next rest =>
    intro empty
    simpa [joinDots] using congrArg String.length empty

def orderedBody : List Stmt :=
  [.importFrom ⟨some "c", 0⟩ [⟨"Y", some "Z"⟩], .classDef 2 "B" [] [] [.other],
    .classDef 3 "D" [] [] [.classDef 4 "E" [attributes (.name "Z") ["Inner"], .name "B"] [] [.other]],
    .importModules [⟨"os", none⟩]]

def orderedSite : ClassSite :=
  ⟨[2, 0], ["D", "E"], 4, [attributes (.name "Z") ["Inner"], .name "B"], [], [.other]⟩

def orderedScope : Scope := ⟨"m", "", [("Z", "c.Y"), ("os", "os")], ["B", "D"], [], []⟩

def orderedType : TypeDecl :=
  ⟨"m.D.E", "E", "m", ["c.Y.Inner", "m.B"], [], [], none, some reassignedPath, 4⟩

theorem ordered_recorded :
    Scope.ofModule "m" false orderedBody = .ok orderedScope ∧ HasClass orderedBody orderedSite ∧
    orderedSite.declaration orderedScope reassignedPath "m" = .ok orderedType ∧
    Records orderedScope orderedSite.bases [] orderedType (attributes (.name "Z") ["Inner"])
      (joinDots (meaning "m" false (orderedBody.take 2) "Z" :: ["Inner"])) ∧
    joinDots (meaning "m" false (orderedBody.take 2) "Z" :: ["Inner"]) = "c.Y.Inner" := by
  have flat : ∀ statement ∈ orderedBody, ImportOrClass statement := by
    simp [orderedBody, ImportOrClass]
  have opened : Scope.ofModule "m" false orderedBody = .ok orderedScope := by cbv
  have has : HasClass orderedBody orderedSite := .inside rfl (.here rfl)
  have made : orderedSite.declaration orderedScope reassignedPath "m" = .ok orderedType := by cbv
  have targets : ∀ statement ∈ orderedBody,
      ∀ entry ∈ (Scope.empty "m" false).importEntries statement, entry.2 ≠ "" := by
    decide
  have free : ∀ statement ∈ orderedBody.take 2, ¬ NamesClass "Z" statement := by
    simp [orderedBody, NamesClass]
  have recorded : Records orderedScope orderedSite.bases [] orderedType
      (attributes (.name "Z") ["Inner"]) _ ∧ _ :=
    names_recorded flat opened has rfl made (by decide) targets fun same => absurd same (by decide)
  have agrees := recorded.2 (by decide) fun front statement rest parts names =>
    absurd names (free statement (by rw [parts]; simp))
  refine ⟨opened, has, made, ?_, by decide⟩
  rw [← agrees]
  exact recorded.1

def overtakenFront : List Stmt :=
  [.importFrom ⟨some "a", 0⟩ [⟨"X", none⟩], .classDef 2 "C" [] [] [.other],
    .importFrom ⟨some "d", 0⟩ [⟨"C", none⟩]]

def overtakenBody : List Stmt :=
  overtakenFront ++ .classDef 5 "Y" [.name "X", .name "Z", .name "C"] [] [.other] ::
    [.importFrom ⟨some "b", 0⟩ [⟨"X", none⟩], .classDef 8 "Z" [] [] [.other]]

def overtakenScope : Scope := ⟨"m", "", [("X", "b.X"), ("C", "d.C")], ["C", "Y", "Z"], [], []⟩

theorem overtaken_recorded :
    (∀ statement ∈ overtakenBody, ImportOrClass statement) ∧
    Scope.ofModule "m" false overtakenBody = .ok overtakenScope ∧
    ["X", "Z", "C"].map (meaning "m" false overtakenFront) = ["a.X", "Z", "d.C"] ∧
    (TypeDecl.ofClass overtakenScope reassignedPath "m" 5 "Y" [.name "X", .name "Z", .name "C"] []
      [.other]).map (·.bases) = .ok ["b.X", "m.Z", "m.C"] :=
  ⟨by simp [overtakenBody, overtakenFront, ImportOrClass], by cbv, by decide, by cbv⟩

end EndpointCatalog.Symbol
