import EndpointCatalog.Proofs.Intake
import EndpointCatalog.Proofs.Settled
import EndpointCatalog.Proofs.StarImports
import Mathlib

namespace EndpointCatalog.Symbol

open Files (Path Tree Node)
open Source (Scope Stmt topLevel)
open Text (components joinDots qualify outerName lastName Undotted)

def StarOnly (tree : Tree) (path : Path) (home source : String) : Prop :=
  ∃ content origin, tree.read path = .ok content ∧
    statementsOf? content = some [.importAll origin] ∧
    (Scope.empty home (path.name = "__init__.py")).absolute origin = source

variable {table after : Table} {tree : Tree} {files : List (Path × String)}

theorem starSources_starOnly (only : StarOnly tree path home source) (apart : source ≠ home)
    (taken : table.takeFile tree path home = (after, none))
    (before : table.starSources home = [] ∨ table.starSources home = [source]) :
    after.starSources home = [source] := by
  obtain ⟨content, origin, read, parsed, rfl⟩ := only
  rw [takeFile_parsed read parsed] at taken
  have opened : Scope.ofModule home (path.name = "__init__.py") [.importAll origin] =
      .ok { Scope.empty home (path.name = "__init__.py") with
        starSources := [(Scope.empty home (path.name = "__init__.py")).absolute origin] } := by
    simp [Scope.ofModule, topLevel, Scope.step, Scope.empty, bind, Except.bind, pure, Except.pure]
  rw [starSources_addModule taken opened, if_pos rfl]
  rcases before with empty | same
  · simp [empty, apart]
  · simp [same]

-- Only the files of a module change its sources, so what each of them makes of the sources holds of
-- what all files make of them.
theorem takeFiles_stars (good : List String → Prop)
    (taken : table.takeFiles tree files = (after, none))
    (step : ∀ {path before next}, (path, home) ∈ files →
      Table.takeFile before tree path home = (next, none) →
      before.starSources home = [] ∨ good (before.starSources home) →
      good (next.starSources home))
    (start : good (table.starSources home) ∨
      table.starSources home = [] ∧ ∃ path, (path, home) ∈ files) :
    good (after.starSources home) := by
  induction files generalizing table with
  | nil =>
    cases taken
    simpa using start
  | cons file rest ih =>
    obtain ⟨path, own⟩ := file
    obtain ⟨middle, first, others⟩ := takeFiles_cons taken
    refine ih others (fun member => step (List.mem_cons_of_mem _ member)) ?_
    by_cases same : own = home
    · subst same
      exact .inl (step List.mem_cons_self first (start.symm.imp_left And.left))
    · rw [← starSources_takeFile first same] at start
      refine start.imp_right ?_
      rintro ⟨empty, path', member⟩
      rcases List.mem_cons.mp member with found | found
      · cases found
        exact absurd rfl same
      · exact ⟨empty, path', found⟩

-- However many files are taken in, the module has the one source.
theorem starSources_takeFiles (taken : table.takeFiles tree files = (after, none))
    (only : ∀ path, (path, home) ∈ files → StarOnly tree path home source) (apart : source ≠ home)
    (start : table.starSources home = [source] ∨
      table.starSources home = [] ∧ ∃ path, (path, home) ∈ files) :
    after.starSources home = [source] := by
  refine takeFiles_stars (· = [source]) taken ?_ start
  exact fun member first before => starSources_starOnly (only _ member) apart first before

namespace Table

def Unbound (table : Table) (name : String) : Prop :=
  ∀ outer rest, components name = outer ++ rest → outer ≠ [] → table.alias? (joinDots outer) = none

theorem unbound_prefixes (unbound : Unbound table name)
    (short : count ≤ (components name).length) :
    table.prefixHop (components name ++ behind) count = none := by
  rw [prefixHop_none]
  intro length positive below
  rw [List.take_append_of_le_length (by omega)]
  refine unbound _ _ (List.take_append_drop length _).symm ?_
  intro empty
  have size := congrArg List.length empty
  rw [List.length_take, List.length_nil] at size
  omega

theorem unbound_aliasHop (unbound : Unbound table name) : table.aliasHop name = none := by
  have whole := unbound (components name) [] (by simp) (Text.components_ne_nil name)
  have outer : table.prefixHop (components name ++ []) ((components name).length - 1) = none :=
    unbound_prefixes unbound (by omega)
  rw [Text.joinDots_components] at whole
  rw [List.append_nil] at outer
  rw [aliasHop, whole, outer, Option.or_none]

-- Of a name in a module that no import binds, only the whole can have an alias.
theorem unbound_outer (unbound : Unbound table home) (clean : Undotted name) :
    table.aliasHop (qualify home name) = table.alias? (qualify home name) := by
  have outer : table.prefixHop (components (qualify home name))
      ((components (qualify home name)).length - 1) = none := by
    by_cases named : home = ""
    · simp [qualify, named, Text.components_undotted clean, prefixHop]
    · rw [Text.components_qualify named, Text.components_undotted clean]
      exact unbound_prefixes unbound (by simp)
  rw [aliasHop, outer, Option.or_none]

-- Nothing but a star import says what the name stands for in a module.
structure Secluded (table : Table) (home name : String) : Prop where
  undeclared : table.declares (qualify home name) = false
  unbound : Unbound table (qualify home name)
  sourceless : ¬ Undotted name → table.starSources (outerName (qualify home name)) = []

theorem leads_through (sources : table.starSources home = [source]) (named : home ≠ "")
    (secluded : Secluded table home name) (clean : Undotted name)
    (plain : table.knows (qualify source name) = true ∨ Unbound table source)
    (leads : Leads table steps (qualify source name) target) (near : steps < hopLimit) :
    Leads table (steps + 1) (qualify home name) target := by
  have outer : outerName (qualify home name) = home := Text.outerName_qualify named clean
  have last : lastName (qualify home name) = name := Text.lastName_qualify clean
  have inside : outerName (qualify home name) ≠ "" := by rwa [outer]
  have listed : table.starSources (outerName (qualify home name)) = [] ++ source :: [] := by
    rw [outer, sources, List.nil_append]
  have outside : ¬ table.declares (qualify home name) = true := by simp [secluded.undeclared]
  have free := unbound_aliasHop secluded.unbound
  obtain ⟨room, limit⟩ : ∃ room, hopLimit = room + 1 := ⟨_, rfl⟩
  have direct : table.knows (qualify source name) = true →
      Leads table (steps + 1) (qualify home name) target := by
    intro known
    rw [← last] at known
    have found : Finds table (room + 1) (qualify home name) _ 1 :=
      .own inside listed (by simp) known
    rw [last, ← limit] at found
    exact .star outside free found leads
  rcases plain with known | plain
  · exact direct known
  cases leads with
  | here declared => exact direct (by simp [knows, declared])
  | link _ bound rest =>
    rw [unbound_outer plain clean] at bound
    exact direct (by simp [knows, bound])
  | @star _ next imports _ steps undeclared unaliased found rest =>
    rw [unbound_outer plain clean] at unaliased
    have unknown : table.knows (qualify source name) = false := by
      simp [knows, unaliased, undeclared]
    rw [limit] at found
    have nearer : Finds table room (qualify source name) next imports :=
      finds_nearer found (by omega)
    rw [← last] at unknown nearer
    have further : Finds table (room + 1) (qualify home name) next (imports + 1) :=
      .nested inside listed (by simp) unknown nearer
    rw [← limit] at further
    rw [Nat.add_assoc]
    exact .star outside free further rest

theorem secluded_dotted (secluded : Secluded table home name) (dotted : ¬ Undotted name) :
    table.resolve (qualify home name) = qualify home name := by
  have searched : table.starHop hopLimit (qualify home name) = none := by
    by_cases outermost : outerName (qualify home name) = ""
    · exact starHop_outermost outermost
    · rw [hopLimit, starHop_succ outermost, secluded.sourceless dotted]
      rfl
  apply resolve_stuck
  rw [hop_parts, unbound_aliasHop secluded.unbound, searched, Option.or_none]

end Table

-- Under a name with dots no declaration is found.
theorem starModule_resolves (taken : Table.empty.takeFiles tree files = (after, none))
    (listed : (path, home) ∈ files)
    (only : ∀ path, (path, home) ∈ files → StarOnly tree path home source)
    (named : home ≠ "") (apart : source ≠ home)
    (plain : after.knows (qualify source name) = true ∨ after.Unbound source)
    (secluded : after.Secluded home name) (leads : after.Leads steps (qualify source name) target)
    (near : steps < Table.hopLimit) :
    after.resolve (qualify source name) = target ∧
      (after.resolve (qualify home name) = target ↔ Undotted name) := by
  obtain ⟨declared, resolved⟩ := Table.leads_resolve leads (by omega)
  refine ⟨resolved, ?_, ?_⟩
  · intro same
    by_contra dotted
    rw [Table.secluded_dotted secluded dotted] at same
    rw [← same, secluded.undeclared] at declared
    cases declared
  · intro clean
    have sources := starSources_takeFiles taken only apart (.inr ⟨rfl, path, listed⟩)
    exact (Table.leads_resolve (Table.leads_through sources named secluded clean plain leads near)
      (by omega)).2

def facadeText : String := "from S import *\n"

def facadeTree : Tree :=
  ⟨.directory [("S.py", .file "class O:\n class I: pass\n".toUTF8.toList),
    ("M.py", .file facadeText.toUTF8.toList)], []⟩

def facadeFiles : List (Path × String) :=
  [(⟨.relative, ["S.py"]⟩, "S"), (⟨.relative, ["M.py"]⟩, "M")]

def facadeTable : Table :=
  { Table.empty with
    types := [⟨"S.O", "O", "S", [], [], [], none, some ⟨.relative, ["S.py"]⟩, 1⟩,
      ⟨"S.O.I", "I", "S", [], [], [], none, some ⟨.relative, ["S.py"]⟩, 2⟩]
    stars := [("M", ["S"])]
    distinct := by decide }

set_option maxRecDepth 4000 in
theorem facade_taken : Table.empty.takeFiles facadeTree facadeFiles = (facadeTable, none) := by
  unfold facadeTree facadeFiles facadeText facadeTable
  cbv

theorem facade_only : StarOnly facadeTree ⟨.relative, ["M.py"]⟩ "M" "S" := by
  refine ⟨facadeText.toUTF8.toList, ⟨some "S", 0⟩, ?_, ?_, rfl⟩
  · unfold facadeTree
    cbv
  · unfold facadeText
    cbv

theorem facade_secluded : facadeTable.Secluded "M" "O" ∧ facadeTable.Secluded "M" "O.I" :=
  ⟨⟨by decide, fun _ _ _ _ => rfl, fun dotted => absurd (by decide) dotted⟩,
    ⟨by decide, fun _ _ _ _ => rfl, fun _ => by decide⟩⟩

theorem facade_dotted_lost :
    Table.empty.takeFiles facadeTree facadeFiles = (facadeTable, none) ∧
    StarOnly facadeTree ⟨.relative, ["M.py"]⟩ "M" "S" ∧
    facadeTable.declares "S.O.I" = true ∧
    facadeTable.resolve (qualify "S" "O.I") = "S.O.I" ∧
    facadeTable.resolve (qualify "M" "O.I") = "M.O.I" :=
  ⟨facade_taken, facade_only, by decide, by decide +kernel, by decide +kernel⟩

theorem facade_resolves :
    facadeTable.resolve (qualify "M" "O") = "S.O" ∧
    facadeTable.resolve (qualify "M" "O.I") ≠ "S.O.I" := by
  have listed : (⟨.relative, ["M.py"]⟩, "M") ∈ facadeFiles := by decide
  have only : ∀ path, (path, "M") ∈ facadeFiles → StarOnly facadeTree path "M" "S" := by
    intro path member
    have same : path = ⟨.relative, ["M.py"]⟩ := by simpa [facadeFiles] using member
    rw [same]
    exact facade_only
  have plain : facadeTable.Unbound "S" := fun _ _ _ _ => rfl
  have outer : facadeTable.Leads 0 (qualify "S" "O") "S.O" := .here (by decide)
  have inner : facadeTable.Leads 0 (qualify "S" "O.I") "S.O.I" := .here (by decide)
  have simple := starModule_resolves facade_taken listed only (by decide) (by decide) (.inr plain)
    facade_secluded.1 outer (by decide)
  have dotted := starModule_resolves facade_taken listed only (by decide) (by decide) (.inr plain)
    facade_secluded.2 inner (by decide)
  exact ⟨simple.2.mpr (by decide), fun same => absurd (dotted.2.mp same) (by decide)⟩

end EndpointCatalog.Symbol
