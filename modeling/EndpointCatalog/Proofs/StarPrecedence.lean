import EndpointCatalog.Proofs.Records
import EndpointCatalog.Proofs.StarChains
import EndpointCatalog.Proofs.StarModule
import Mathlib

namespace EndpointCatalog.Source.Scope

open EndpointCatalog.Symbol (foldl_keeps)

def starSource? (scope : Scope) : Stmt → Option String
  | .importAll source => some (scope.absolute source)
  | _ => none

variable {scope next : Scope}

theorem starSource_package (same : next.package = scope.package) :
    next.starSource? = scope.starSource? := by
  funext statement
  cases statement <;> simp [starSource?, absolute, same]

theorem remember_stars (remembered : scope.remember target value = .ok next) :
    next.package = scope.package ∧ next.starSources = scope.starSources := by
  obtain ⟨constants, rfl⟩ := remember_constants remembered
  exact ⟨rfl, rfl⟩

theorem package_addImport : (scope.addImport name target).package = scope.package := rfl

theorem starSources_addImport : (scope.addImport name target).starSources = scope.starSources := rfl

theorem step_stars (stepped : scope.step statement = .ok next) :
    next.package = scope.package ∧
      next.starSources = scope.starSources ++ (scope.starSource? statement).toList := by
  unfold step at stepped
  split at stepped
  · cases stepped
    refine ⟨foldl_keeps Scope.package fun _ imported => by cases imported.localName <;> rfl, ?_⟩
    rw [foldl_keeps Scope.starSources fun _ imported => by cases imported.localName <;> rfl]
    simp [starSource?]
  · cases stepped
    refine ⟨foldl_keeps Scope.package fun _ _ => package_addImport, ?_⟩
    rw [foldl_keeps Scope.starSources fun _ _ => starSources_addImport]
    simp [starSource?]
  · cases stepped
    exact ⟨rfl, rfl⟩
  · cases stepped
    split <;> simp [starSource?]
  · simpa [starSource?] using remember_stars stepped
  · simpa [starSource?] using remember_stars stepped
  · rename_i plain _ _ _
    cases stepped
    have none : scope.starSource? statement = none := by
      unfold starSource?
      split
      · exact absurd rfl (plain _)
      · rfl
    simp [none]

theorem steps_stars {statements : List Stmt} (stepped : statements.foldlM step scope = .ok next) :
    next.starSources = scope.starSources ++ statements.filterMap scope.starSource? := by
  induction statements generalizing scope with
  | nil =>
    cases stepped
    simp
  | cons statement rest ih =>
    rw [List.foldlM_cons] at stepped
    obtain ⟨middle, first, later⟩ := bind_ok stepped
    obtain ⟨same, listed⟩ := step_stars first
    rw [ih later, listed, starSource_package same, List.append_assoc, List.filterMap_cons]
    cases scope.starSource? statement <;> rfl

theorem ofModule_stars (opened : Scope.ofModule outer isPackage body = .ok scope) :
    scope.starSources = (topLevel body).filterMap (empty outer isPackage).starSource? :=
  steps_stars opened

end EndpointCatalog.Source.Scope

namespace EndpointCatalog.Symbol

open Files (Path Tree)
open Source (Scope topLevel)
open Text (qualify Undotted)

namespace Table

variable {table : Table}

-- Star imports that lead back to the module do not make a source have the name.
def Provides (table : Table) (home source name : String) : Prop :=
  ∃ modules, home ∉ source :: modules ∧ List.IsChain (StarImport table) (source :: modules) ∧
    table.knows (qualify (modules.getLastD source) name) = true

theorem leaves_straight (named : home ≠ "") (front : Runs table home places modules)
    (back : modules.getLastD home = home) (short : modules.length < limit)
    (listed : (table.starSources home)[place]? = some source)
    (known : table.knows (qualify source name) = true) :
    Leaves table limit home name (places ++ [place]) (modules ++ [source]) := by
  have last : Runs table (modules.getLastD home) [place] [source] := by
    rw [back]
    exact .next named listed .stop
  refine ⟨by simp, runs_append front last, ?_, by simpa using known⟩
  rw [List.length_append, List.length_singleton]
  exact short

-- After the last time that a chain is at the module it goes through one of the sources, and that
-- source has the name without the module.
theorem leaves_last (leaves : Leaves table limit home name places modules)
    (unknown : table.knows (qualify home name) = false) :
    ∃ front passed place source back rest,
      places = front ++ place :: back ∧ modules = passed ++ source :: rest ∧
      Runs table home front passed ∧ passed.getLastD home = home ∧
      (table.starSources home)[place]? = some source ∧ Runs table source back rest ∧
      Provides table home source name := by
  obtain ⟨_, runs, _, ended⟩ := leaves
  obtain ⟨front, passed, back, rest, rfl, rfl, reached, last, after, never⟩ :=
    runs_last runs List.mem_cons_self
  rw [getLastD_append, last] at ended
  cases after with
  | stop =>
    rw [List.getLastD_nil, unknown] at ended
    cases ended
  | @next _ place source back rest _ listed after =>
    rw [List.getLastD_cons] at ended
    exact ⟨front, passed, place, source, back, rest, rfl, rfl, reached, last, listed, after,
      rest, never, runs_chain.mp ⟨back, after⟩, ended⟩

-- The search ends at the first source that declares the name: the first chain comes to no source in
-- front of it that has the name, and would be longer or later if it went on or past it.
theorem first_source (named : home ≠ "") (clean : Undotted name)
    (unknown : table.knows (qualify home name) = false)
    (sources : table.starSources home = before ++ source :: behind)
    (declared : table.declares (qualify source name) = true)
    (earlier : ∀ other ∈ before, table.declares (qualify other name) = false)
    (own : ∀ other ∈ table.starSources home, Provides table home other name →
      table.declares (qualify other name) = true) :
    table.starHop hopLimit (qualify home name) = some (qualify source name) := by
  have answers : Answers (Leaves table 32 home name) home name _ := answers_starHop clean
  change Answers _ _ _ (table.starHop hopLimit _) at answers
  have listed : (table.starSources home)[before.length]? = some source := by simp [sources]
  have known : table.knows (qualify source name) = true := by simp [knows, declared]
  cases found : table.starHop hopLimit (qualify home name) with
  | none =>
    rw [found] at answers
    exact absurd (leaves_straight named .stop rfl (by simp) listed known) (answers _ _)
  | some next =>
    rw [found] at answers
    obtain ⟨places, modules, first, rfl⟩ := answers
    obtain ⟨front, passed, place, other, back, rest, rfl, rfl, reached, last, taken, after, provides⟩ :=
      leaves_last first.1 unknown
    have short := first.1.2.2.1
    rw [List.length_append, List.length_cons] at short
    have instead : Leaves table 32 home name _ _ :=
      leaves_straight named reached last (by omega) listed known
    rcases Nat.lt_trichotomy place before.length with sooner | rfl | later
    · have offered := own other (List.mem_of_getElem? taken) provides
      rw [sources, List.getElem?_append_left sooner] at taken
      rw [earlier other (List.mem_of_getElem? taken)] at offered
      cases offered
    · rw [listed] at taken
      cases taken
      cases after with
      | stop => simp
      | @next _ place _ back _ _ _ _ =>
        have shorter : List.Lex (· < ·) [before.length] (before.length :: place :: back) :=
          .cons .nil
        exact absurd (List.Lex.append_left _ shorter front) (first_before first instead)
    · have nearer : List.Lex (· < ·) [before.length] (place :: back) := .rel later
      exact absurd (List.Lex.append_left _ nearer front) (first_before first instead)

end Table

-- What is first of a kind stays first, as long as the module itself is not of the kind.
def Condenses (home : String) (sources kept : List String) : Prop :=
  ∀ kind : String → Bool, kind home = false → kept.find? kind = sources.find? kind

theorem find_addSource {sources kept : List String} {kind : String → Bool}
    (apart : kind home = false) :
    (sources.foldl (Table.addSource home) kept).find? kind = (kept ++ sources).find? kind := by
  induction sources generalizing kept with
  | nil => simp
  | cons source rest ih =>
    rw [List.foldl_cons, ih, Table.addSource]
    split
    next idle =>
      rw [List.find?_append, List.find?_append, List.find?_cons]
      cases chosen : kind source with
      | false => rfl
      | true =>
        rcases idle with rfl | member
        · rw [apart] at chosen
          cases chosen
        · have found : (kept.find? kind).isSome = true :=
            List.find?_isSome.mpr ⟨source, member, chosen⟩
          rw [Option.or_of_isSome found, Option.or_of_isSome found]
    next => rw [List.append_assoc, List.singleton_append]

theorem condenses_again (condensed : kept = [] ∨ Condenses home sources kept) :
    Condenses home sources (sources.foldl (Table.addSource home) kept) := by
  intro kind apart
  rw [find_addSource apart]
  rcases condensed with rfl | condensed
  · rfl
  · rw [List.find?_append, condensed kind apart, Option.or_self]

theorem condenses_mem (condensed : Condenses home sources kept) (apart : source ≠ home)
    (member : source ∈ kept) : source ∈ sources := by
  have same := condensed (· == source) (by simpa using Ne.symm apart)
  have found : (kept.find? (· == source)).isSome = true :=
    List.find?_isSome.mpr ⟨source, member, by simp⟩
  rw [same, List.find?_isSome] at found
  obtain ⟨other, listed, equal⟩ := found
  rwa [← eq_of_beq equal]

def StarsFrom (tree : Tree) (path : Path) (home : String) (sources : List String) : Prop :=
  ∃ content body, tree.read path = .ok content ∧ statementsOf? content = some body ∧
    (topLevel body).filterMap (Scope.empty home (path.name = "__init__.py")).starSource? = sources

variable {table after : Table} {tree : Tree} {files : List (Path × String)}

theorem takeFile_condenses (taken : table.takeFile tree path home = (after, none))
    (starred : StarsFrom tree path home sources)
    (start : table.starSources home = [] ∨ Condenses home sources (table.starSources home)) :
    Condenses home sources (after.starSources home) := by
  obtain ⟨content, body, read, parsed, rfl⟩ := starred
  rw [takeFile_parsed read parsed] at taken
  obtain ⟨scope, opened, -⟩ := addModule_whole taken
  rw [starSources_addModule taken opened, if_pos rfl, Scope.ofModule_stars opened]
  exact condenses_again start

-- The name leads to no later source that declares it.
theorem first_star_resolves (taken : Table.empty.takeFiles tree files = (after, none))
    (listed : (path, home) ∈ files)
    (starred : ∀ path, (path, home) ∈ files → StarsFrom tree path home sources)
    (named : home ≠ "") (clean : Undotted name)
    (undeclared : after.declares (qualify home name) = false)
    (unbound : after.Unbound (qualify home name))
    (own : ∀ source ∈ sources, after.Provides home source name →
      after.declares (qualify source name) = true)
    (offered : ∃ source ∈ sources, after.declares (qualify source name) = true) :
    ∃ before source behind, sources = before ++ source :: behind ∧
      after.declares (qualify source name) = true ∧
      (∀ other ∈ before, after.declares (qualify other name) = false) ∧
      ∀ other, after.resolve (qualify home name) = qualify other name ↔ other = source := by
  have condensed : Condenses home sources (after.starSources home) :=
    takeFiles_stars (Condenses home sources) taken
      (fun member first => takeFile_condenses first (starred _ member)) (.inr ⟨rfl, path, listed⟩)
  have free := Table.unbound_aliasHop unbound
  have unknown : after.knows (qualify home name) = false := by
    rw [Table.aliasHop, Option.or_eq_none_iff] at free
    simp [Table.knows, undeclared, free.1]
  have same := condensed (fun source => after.declares (qualify source name)) undeclared
  obtain ⟨source, first⟩ := Option.isSome_iff_exists.mp (List.find?_isSome.mpr offered)
  rw [first, List.find?_eq_some_iff_append] at same
  obtain ⟨declared, before, behind, parts, earlier⟩ := List.find?_eq_some_iff_append.mp first
  obtain ⟨-, before', behind', parts', earlier'⟩ := same
  have found : after.starHop Table.hopLimit (qualify home name) = some (qualify source name) := by
    apply Table.first_source named clean unknown parts' declared
    · simpa using earlier'
    · intro other member provided
      have apart : other ≠ home := by
        rintro rfl
        obtain ⟨modules, never, -⟩ := provided
        exact never List.mem_cons_self
      exact own other (condenses_mem condensed apart member) provided
  have hopped : after.hop (qualify home name) = some (qualify source name) := by
    rw [Table.hop_parts, free, Option.none_or, found]
  have reached : Table.FirstDeclared after (qualify source name) 0 (qualify source name) :=
    ⟨rfl, declared, by simp⟩
  obtain ⟨-, resolved⟩ := Table.resolve_declares.mpr
    ⟨1, by decide, Table.first_hop (by simp [undeclared]) hopped reached⟩
  refine ⟨before, source, behind, parts, declared, by simpa using earlier, ?_⟩
  intro other
  rw [resolved]
  constructor
  · intro equal
    exact (Text.qualify_injective clean equal).symm
  · rintro rfl
    rfl

def rivalText : String := "from S1 import *\nfrom S2 import *\n"

def rivalTree : Tree :=
  ⟨.directory [("S1.py", .file "class X:\n    pass\n".toUTF8.toList),
    ("S2.py", .file "class X:\n    pass\n".toUTF8.toList),
    ("M.py", .file rivalText.toUTF8.toList)], []⟩

def rivalFiles : List (Path × String) :=
  [(⟨.relative, ["S1.py"]⟩, "S1"), (⟨.relative, ["S2.py"]⟩, "S2"), (⟨.relative, ["M.py"]⟩, "M")]

def rivalTable : Table :=
  { Table.empty with
    types := [⟨"S1.X", "X", "S1", [], [], [], none, some ⟨.relative, ["S1.py"]⟩, 1⟩,
      ⟨"S2.X", "X", "S2", [], [], [], none, some ⟨.relative, ["S2.py"]⟩, 1⟩]
    stars := [("M", ["S1", "S2"])]
    distinct := by decide }

set_option maxRecDepth 4000 in
theorem rival_taken : Table.empty.takeFiles rivalTree rivalFiles = (rivalTable, none) := by
  unfold rivalTree rivalFiles rivalText rivalTable
  cbv

theorem rival_stars : ∀ path, (path, "M") ∈ rivalFiles →
    StarsFrom rivalTree path "M" ["S1", "S2"] := by
  intro path member
  obtain rfl : path = ⟨.relative, ["M.py"]⟩ := by simpa [rivalFiles] using member
  refine ⟨rivalText.toUTF8.toList, [.importAll ⟨some "S1", 0⟩, .importAll ⟨some "S2", 0⟩], ?_, ?_, ?_⟩
  · unfold rivalTree
    cbv
  · unfold rivalText
    cbv
  · simp [topLevel, Scope.starSource?, Scope.absolute]

theorem rival_offers : ∀ source ∈ ["S1", "S2"],
    rivalTable.declares (qualify source "X") = true := by decide

theorem second_star_passed :
    Table.empty.takeFiles rivalTree rivalFiles = (rivalTable, none) ∧
    (∀ path, (path, "M") ∈ rivalFiles → StarsFrom rivalTree path "M" ["S1", "S2"]) ∧
    (∀ source ∈ ["S1", "S2"], rivalTable.declares (qualify source "X") = true) ∧
    rivalTable.declares (qualify "M" "X") = false ∧ rivalTable.Unbound (qualify "M" "X") ∧
    rivalTable.resolve (qualify "M" "X") = qualify "S1" "X" ∧
    rivalTable.resolve (qualify "M" "X") ≠ qualify "S2" "X" :=
  ⟨rival_taken, rival_stars, rival_offers, by decide, fun _ _ _ _ => rfl, by decide +kernel,
    by decide +kernel⟩

theorem first_rival_resolves :
    rivalTable.resolve (qualify "M" "X") = qualify "S1" "X" ∧
    rivalTable.resolve (qualify "M" "X") ≠ qualify "S2" "X" := by
  have listed : (⟨.relative, ["M.py"]⟩, "M") ∈ rivalFiles := by decide
  have own : ∀ source ∈ ["S1", "S2"], rivalTable.Provides "M" source "X" →
      rivalTable.declares (qualify source "X") = true :=
    fun source member _ => rival_offers source member
  obtain ⟨before, source, behind, parts, -, earlier, exactly⟩ :=
    first_star_resolves rival_taken listed rival_stars (by decide) (by decide) (by decide)
      (fun _ _ _ _ => rfl) own ⟨"S1", by decide, by decide⟩
  cases before with
  | nil =>
    obtain ⟨rfl, -⟩ : "S1" = source ∧ ["S2"] = behind := by simpa using parts
    exact ⟨(exactly "S1").mpr rfl, fun second => absurd ((exactly "S2").mp second) (by decide)⟩
  | cons other before =>
    obtain ⟨rfl, -⟩ : "S1" = other ∧ ["S2"] = before ++ source :: behind := by simpa using parts
    have silent := earlier "S1" List.mem_cons_self
    rw [rival_offers "S1" (by decide)] at silent
    cases silent

end EndpointCatalog.Symbol
