import EndpointCatalog.Proofs.ImportBindings
import EndpointCatalog.Proofs.ModuleClasses
import EndpointCatalog.Proofs.Resolution
import Mathlib

namespace EndpointCatalog.Text

theorem joinDots_nested (front : first ≠ []) :
    joinDots (joinDots first :: rest) = joinDots (first ++ rest) := by
  cases rest with
  | nil => rw [List.append_nil]; rfl
  | cons next others =>
    rw [← List.singleton_append, joinDots_append (by simp) (by simp),
      joinDots_append front (by simp)]
    rfl

theorem firstName_parts (clean : ∀ part ∈ first :: rest, Component part) :
    firstName (joinDots (first :: rest)) = first := by
  rw [firstName, components_named clean (by simp), List.headD_cons]

end EndpointCatalog.Text

namespace EndpointCatalog.Source

open Text (joinDots qualify firstName Component)

def attributes (head : Expr) (names : List String) : Expr := names.foldl .attribute head

def subscripts (head : Expr) (indexes : List Expr) : Expr := indexes.foldl .subscript head

-- The class is written by the name that the import binds, and by attributes of it.
inductive Spelling (package : List String) (name : String) : Stmt → String → Expr → Prop where
  | whole (listed : ⟨joinDots package, none⟩ ∈ names) (begins : package = first :: rest) :
      Spelling package name (.importModules names) first (attributes (.name first) (rest ++ [name]))
  | renamed (listed : ⟨joinDots package, some own⟩ ∈ names) :
      Spelling package name (.importModules names) own (.attribute (.name own) name)
  | taken (parts : package ++ [name] = front ++ next :: below) (inside : front ≠ [])
      (listed : ⟨next, own⟩ ∈ names) :
      Spelling package name (.importFrom ⟨some (joinDots front), 0⟩ names) (own.getD next)
        (attributes (.name (own.getD next)) below)

def Binds (blocks : Stmt → List (List Stmt)) (home : String) (isPackage : Bool) (body : List Stmt)
    (name target : String) : Prop :=
  ∃ statement, Stands blocks statement body ∧
    (name, target) ∈ (Scope.empty home isPackage).importEntries statement

structure Undisputed (blocks : Stmt → List (List Stmt)) (home : String) (isPackage : Bool)
    (body : List Stmt) (statement : Stmt) (name : String) : Prop where
  stands : Stands blocks statement body
  free : ∀ statement, Stands blocks statement body → ¬ NamesClass name statement
  alone : ∀ first second, Binds blocks home isPackage body name first →
    Binds blocks home isPackage body name second → first = second

theorem undisputed_listed {listed : List Stmt}
    (within : ∀ statement, Stands blocks statement body → statement ∈ listed) (target : String)
    (stands : Stands blocks statement body) (free : ∀ statement ∈ listed, ¬ NamesClass name statement)
    (entries : ∀ statement ∈ listed, ∀ found,
      (name, found) ∈ (Scope.empty home isPackage).importEntries statement → found = target) :
    Undisputed blocks home isPackage body statement name := by
  refine ⟨stands, fun statement other => free statement (within statement other), ?_⟩
  have same : ∀ found, Binds blocks home isPackage body name found → found = target := by
    rintro found ⟨statement, other, entry⟩
    exact entries statement (within statement other) found entry
  intro first second one two
  exact (same first one).trans (same second two).symm

namespace Scope

variable {scope : Scope} {package : List String}

theorem mem_moduleEntries :
    (name, target) ∈ moduleEntries outer isPackage body ↔
      Binds openBlocks outer isPackage body name target := by
  rw [moduleEntries, List.mem_flatMap]
  constructor
  · rintro ⟨statement, member, entry⟩
    exact ⟨statement, (mem_topLevel.mp member).1, entry⟩
  · rintro ⟨statement, stands, entry⟩
    exact ⟨statement, mem_topLevel.mpr ⟨stands, importEntries_whole entry⟩, entry⟩

theorem bound_binds (opened : ofModule outer isPackage body = .ok scope)
    (bound : bound? name scope.imports = some target) :
    Binds openBlocks outer isPackage body name target := by
  rw [ofModule_imports opened] at bound
  have member := bound_mem bound
  rwa [List.mem_reverse, mem_moduleEntries] at member

theorem bound_undisputed (opened : ofModule outer isPackage body = .ok scope)
    (undisputed : Undisputed openBlocks outer isPackage body statement name)
    (entry : (name, target) ∈ (empty outer isPackage).importEntries statement) :
    bound? name scope.imports = some target := by
  have binds : Binds openBlocks outer isPackage body name target :=
    ⟨statement, undisputed.stands, entry⟩
  rw [ofModule_imports opened]
  apply bound_agreed
  · rwa [List.mem_reverse, mem_moduleEntries]
  · intro other member
    rw [List.mem_reverse, mem_moduleEntries] at member
    exact undisputed.alone other target member binds

theorem resolve_undisputed (opened : ofModule outer isPackage body = .ok scope)
    (undisputed : Undisputed openBlocks outer isPackage body statement name)
    (entry : (name, target) ∈ (empty outer isPackage).importEntries statement) :
    scope.resolve (.name name) = some target := by
  have foreign : name ∉ scope.classes := by
    rw [ofModule_classes opened]
    rintro ⟨statement, member, names⟩
    exact undisputed.free statement (mem_topLevel.mp member).1 names
  simp [resolve, foreign, bound_undisputed opened undisputed entry]

theorem resolve_attributes (resolved : scope.resolve head = some start) (named : start ≠ "") :
    scope.resolve (attributes head names) = some (joinDots (start :: names)) := by
  induction names generalizing head start with
  | nil => exact resolved
  | cons next rest ih =>
    have onward : scope.resolve (.attribute head next) = some (start ++ "." ++ next) := by
      rw [resolve, resolved]
      simp [named]
    have longer : start ++ "." ++ next ≠ "" := by
      intro empty
      simpa using congrArg String.length empty
    have joined : start ++ "." ++ next = joinDots [start, next] := rfl
    rw [attributes, List.foldl_cons, ← attributes, ih onward longer, joined,
      Text.joinDots_nested (by simp)]
    rfl

theorem resolve_subscripts : scope.resolve (subscripts head indexes) = scope.resolve head := by
  induction indexes generalizing head with
  | nil => rfl
  | cons index rest ih =>
    rw [subscripts, List.foldl_cons, ← subscripts, ih]
    rfl

theorem spelling_leads (clean : ∀ part ∈ package ++ [name], Component part) (inside : package ≠ [])
    (spelled : Spelling package name statement own expr) :
    ∃ target, (own, target) ∈ (empty outer isPackage).importEntries statement ∧
      ∀ scope : Scope, scope.resolve (.name own) = some target →
        scope.resolve expr = some (joinDots (package ++ [name])) := by
  cases spelled with
  | @whole names _ rest listed begins =>
    subst begins
    have head : firstName (joinDots (own :: rest)) = own :=
      Text.firstName_parts fun part member => clean part (List.mem_append_left _ member)
    have named : own ≠ "" := (clean own (by simp)).1
    refine ⟨own, List.mem_map.mpr ⟨_, listed, by simp [head]⟩, ?_⟩
    intro scope resolved
    exact resolve_attributes resolved named
  | @renamed _ names listed =>
    have named : joinDots package ≠ "" :=
      Text.joinDots_named (fun part member => clean part (List.mem_append_left _ member)) inside
    refine ⟨joinDots package, List.mem_map.mpr ⟨_, listed, rfl⟩, ?_⟩
    intro scope resolved
    have further : scope.resolve (attributes (.name own) [name]) =
        some (joinDots (joinDots package :: [name])) := resolve_attributes resolved named
    rwa [Text.joinDots_nested inside] at further
  | @taken front next below imported names parts held listed =>
    rw [parts] at clean ⊢
    have named : joinDots front ≠ "" :=
      Text.joinDots_named (fun part member => clean part (List.mem_append_left _ member)) held
    have target : qualify (joinDots front) (joinDots [next]) = joinDots (front ++ [next]) :=
      Text.qualify_parts named (by simp)
    change qualify (joinDots front) next = _ at target
    have reached : joinDots (front ++ [next]) ≠ "" := by
      refine Text.joinDots_named ?_ (by simp)
      intro part member
      exact clean part (by simp at member ⊢; tauto)
    refine ⟨joinDots (front ++ [next]), List.mem_map.mpr ⟨_, listed, by simp [absolute, target]⟩, ?_⟩
    intro scope resolved
    rw [resolve_attributes resolved reached, Text.joinDots_nested (by simp), List.append_assoc]
    rfl

end Scope

end EndpointCatalog.Source

namespace EndpointCatalog.Symbol

open Source (Scope Stmt Expr Spelling Undisputed Stands Binds NamesClass openBlocks subscripts
  bound? stands_cons stands_nil)
open Text (joinDots Component)

-- What an expression of a module says when it names a class: as a base, and as a decorator with and
-- without arguments.
structure Denotes (scope : Scope) (expr : Expr) (qualname : String) : Prop where
  resolved : scope.resolve expr = some qualname
  base : baseName scope expr = qualname
  bare : ∀ line, Marker.ofDecorator scope ⟨expr, line⟩ = .ok (some ⟨qualname, [], [], line⟩)
  called : ∀ args keywords line found,
    Marker.ofDecorator scope ⟨.call expr args keywords, line⟩ = .ok found →
      ∃ marker, found = some marker ∧ marker.typeName = qualname

variable {scope : Scope}

theorem denotes_resolved (resolved : scope.resolve expr = some qualname) (named : qualname ≠ "") :
    Denotes scope expr qualname := by
  refine ⟨resolved, by simp [baseName, resolved, named], ?_, ?_⟩
  · intro line
    cases expr with
    | call => cases resolved
    | _ => simp [Marker.ofDecorator, resolved, pure, Except.pure]
  · intro args keywords line found read
    simp only [Marker.ofDecorator, resolved, bind, Except.bind, pure, Except.pure] at read
    split at read
    · cases read
    · split at read
      · cases read
      · cases read
        exact ⟨_, rfl, rfl⟩

-- No import counts that stands in other blocks than those of conditions and attempts.
theorem spellings_agree {package : List String}
    (opened : Scope.ofModule home isPackage body = .ok scope) (inside : package ≠ [])
    (clean : ∀ part ∈ package ++ [name], Component part)
    (spelled : Spelling package name statement own expr)
    (undisputed : Undisputed openBlocks home isPackage body statement own) :
    (∀ indexes, Denotes scope (subscripts expr indexes) (joinDots (package ++ [name]))) ∧
    (∀ (table : Table) (type : TypeDecl),
      table.declared? (joinDots (package ++ [name])) = some type →
        ∀ indexes, table.get? (baseName scope (subscripts expr indexes)) = some type) ∧
    ∀ other target, bound? other scope.imports = some target →
      Binds openBlocks home isPackage body other target := by
  obtain ⟨target, entry, leads⟩ := Scope.spelling_leads clean inside spelled
  have resolved := leads scope (Scope.resolve_undisputed opened undisputed entry)
  have denotes : ∀ indexes, Denotes scope (subscripts expr indexes) (joinDots (package ++ [name])) :=
    fun indexes => denotes_resolved (Scope.resolve_subscripts.trans resolved)
      (Text.joinDots_named clean (by simp))
  refine ⟨denotes, ?_, fun _ _ => Scope.bound_binds opened⟩
  intro table type found indexes
  rw [(denotes indexes).base, Table.get?, Table.resolve_declared (by simp [Table.declares, found])]
  exact found

def fallbackBody : List Stmt :=
  [.attempt [.importModules [⟨"app.forms", some "forms"⟩]]
    [(none, [.importFrom ⟨some "app", 0⟩ [⟨"forms", none⟩]])] [] []]

def fallbackScope : Scope :=
  { Scope.empty "app.web" false with imports := [("forms", "app.forms")] }

theorem fallback_undisputed :
    Undisputed openBlocks "app.web" false fallbackBody
      (.importModules [⟨"app.forms", some "forms"⟩]) "forms" := by
  have listed : ∀ statement, Stands openBlocks statement fallbackBody →
      statement ∈ fallbackBody ++ [.importModules [⟨"app.forms", some "forms"⟩],
        .importFrom ⟨some "app", 0⟩ [⟨"forms", none⟩]] := by
    intro statement stands
    simpa [fallbackBody, stands_cons, stands_nil, openBlocks] using stands
  apply Source.undisputed_listed listed "app.forms"
  · simp [fallbackBody, stands_cons, stands_nil, openBlocks]
  · simp [fallbackBody, NamesClass]
  · simp [fallbackBody, Scope.importEntries, Scope.absolute, Text.qualify]

def formType : TypeDecl := ⟨"app.forms.Form", "Form", "app.forms", [], [], [], none, none, 1⟩

def formTable : Table := { Table.empty with types := [formType], distinct := by decide }

theorem fallback_denotes :
    Scope.ofModule "app.web" false fallbackBody = .ok fallbackScope ∧
    Undisputed openBlocks "app.web" false fallbackBody
      (.importModules [⟨"app.forms", some "forms"⟩]) "forms" ∧
    Denotes fallbackScope (.subscript (.attribute (.name "forms") "Form") (.name "Text"))
      "app.forms.Form" ∧
    formTable.get? (baseName fallbackScope (.attribute (.name "forms") "Form")) = some formType := by
  have opened : Scope.ofModule "app.web" false fallbackBody = .ok fallbackScope := by cbv
  have clean : ∀ part ∈ ["app", "forms"] ++ ["Form"], Text.Component part := by decide
  obtain ⟨denotes, leads, -⟩ := spellings_agree opened (by decide) clean
    (.renamed (List.mem_singleton.mpr rfl)) fallback_undisputed
  exact ⟨opened, fallback_undisputed, denotes [.name "Text"], leads formTable formType rfl []⟩

def groupText : String := "try:\n import app.forms as forms\nexcept* E: pass\n"

def groupBody : List Stmt :=
  [.attemptGroup [.importModules [⟨"app.forms", some "forms"⟩]] [(none, [.other])] [] []]

def everyBlock : Stmt → List (List Stmt)
  | .attemptGroup body handlers orelse final => body :: handlers.map (·.2) ++ [orelse, final]
  | statement => openBlocks statement

set_option maxRecDepth 4000 in
theorem group_parsed : statementsOf? groupText.toUTF8.toList = some groupBody := by
  unfold groupText groupBody
  cbv

theorem group_undisputed :
    Undisputed everyBlock "app.web" false groupBody
      (.importModules [⟨"app.forms", some "forms"⟩]) "forms" := by
  have listed : ∀ statement, Stands everyBlock statement groupBody →
      statement ∈ groupBody ++ [.importModules [⟨"app.forms", some "forms"⟩], .other] := by
    intro statement stands
    simpa [groupBody, stands_cons, stands_nil, everyBlock, openBlocks] using stands
  apply Source.undisputed_listed listed "app.forms"
  · simp [groupBody, stands_cons, stands_nil, everyBlock, openBlocks]
  · simp [groupBody, NamesClass]
  · simp [groupBody, Scope.importEntries]

-- Such an attempt is not looked into, and the name stands for itself.
theorem group_lost :
    statementsOf? groupText.toUTF8.toList = some groupBody ∧
    Spelling ["app", "forms"] "Form" (.importModules [⟨"app.forms", some "forms"⟩]) "forms"
      (.attribute (.name "forms") "Form") ∧
    Undisputed everyBlock "app.web" false groupBody
      (.importModules [⟨"app.forms", some "forms"⟩]) "forms" ∧
    Scope.ofModule "app.web" false groupBody = .ok (Scope.empty "app.web" false) ∧
    (Scope.empty "app.web" false).resolve (.attribute (.name "forms") "Form") =
      some "forms.Form" ∧
    "forms.Form" ≠ joinDots (["app", "forms"] ++ ["Form"]) :=
  ⟨group_parsed, .renamed (List.mem_singleton.mpr rfl), group_undisputed, by cbv, by decide,
    by decide⟩

end EndpointCatalog.Symbol
