import EndpointCatalog.Proofs.ImportBindings
import EndpointCatalog.Symbol.Intake
import Mathlib

namespace EndpointCatalog.Symbol

open Files (Path)
open Source (Scope Stmt BindsLast bound?)
open Text (qualify joinDots components outerName Component)

theorem withoutEnding_source (stem : String) : withoutEnding (stem ++ ".py") = stem := by
  have ends : ".py".toList.isSuffixOf (stem ++ ".py").toList = true := by simp
  have ending : ".py".length = 3 := by decide
  have length : (stem ++ ".py").length - 3 = stem.toList.length := by
    rw [String.length_append, ending, Nat.add_sub_cancel, String.length_toList]
  rw [withoutEnding, if_pos ends, length, String.toList_append, List.take_left',
    String.ofList_toList]
  rfl

theorem homeOf_module (proper : stem ≠ "__init__") :
    homeOf (outer ++ [stem ++ ".py"]) = some (joinDots (outer ++ [stem])) := by
  simp [homeOf, withoutEnding_source, proper]

theorem homeOf_package : homeOf (outer ++ ["__init__.py"]) = some (joinDots outer) := by
  have stem : withoutEnding "__init__.py" = "__init__" := withoutEnding_source "__init__"
  simp [homeOf, stem]

inductive SourceName : String → Prop where
  | package : SourceName "__init__.py"
  | module (named : Component stem) (proper : stem ≠ "__init__") : SourceName (stem ++ ".py")

variable {dirs : List String}

theorem scope_package (clean : ∀ dir ∈ dirs, Component dir) (source : SourceName file) :
    ∃ home, homeOf (dirs ++ [file]) = some home ∧
      (Scope.empty home (file = "__init__.py")).package = joinDots dirs := by
  cases source with
  | package => exact ⟨joinDots dirs, homeOf_package, rfl⟩
  | @module stem named proper =>
    have other : stem ++ ".py" ≠ "__init__.py" := by
      intro same
      exact proper ((String.append_left_inj ".py").mp same)
    refine ⟨joinDots (dirs ++ [stem]), homeOf_module proper, ?_⟩
    have whole : ∀ part ∈ dirs ++ [stem], Component part := by
      simpa [or_imp, forall_and] using ⟨clean, named⟩
    simp [Scope.empty, other, outerName, Text.components_named whole]

-- One dot leads to the directory of the file.
def upward (dirs : List String) (level : Nat) : List String := dirs.take (dirs.length + 1 - level)

theorem absolute_upward {scope : Scope} (clean : ∀ dir ∈ dirs, Component dir)
    (package : scope.package = joinDots dirs) (up : 0 < level) (inside : level ≤ dirs.length) :
    scope.absolute ⟨none, level⟩ = joinDots (upward dirs level) ∧
      ∀ path, path ≠ "" →
        scope.absolute ⟨some path, level⟩ = qualify (joinDots (upward dirs level)) path := by
  have some : dirs ≠ [] := by
    rintro rfl
    simp at inside
    omega
  have named : scope.package ≠ "" := by
    rw [package]
    exact Text.joinDots_named clean some
  have left : dirs.length - (level - 1) = dirs.length + 1 - level := by omega
  have positive : level ≠ 0 := by omega
  have parts : components scope.package = dirs := by rw [package, Text.components_named clean some]
  refine ⟨?_, fun path given => ?_⟩
  · simp [Scope.absolute, positive, named, parts, left, upward]
  · simp [Scope.absolute, positive, named, parts, left, upward, given]

-- An import from the dots alone binds a name below the directory that they lead to.
theorem relative_import_lands {dirs : List String} (clean : ∀ dir ∈ dirs, Component dir)
    (source : SourceName file) (level : Nat) (up : 0 < level) (inside : level ≤ dirs.length)
    (root : Path) :
    ∃ home, homeOf (dirs ++ [file]) = some home ∧ ∀ body scope,
      Scope.ofModule home ((root.join (dirs ++ [file])).name = "__init__.py") body = .ok scope →
      (∀ outer last name, (∀ part ∈ outer ++ [last], Component part) → last ≠ "__init__" →
        BindsLast body (.importFrom ⟨some (joinDots (outer ++ [last])), level⟩ [⟨name, none⟩]) name →
        ∃ target, homeOf (upward dirs level ++ outer ++ [last ++ ".py"]) = some target ∧
          homeOf (upward dirs level ++ outer ++ [last, "__init__.py"]) = some target ∧
          bound? name scope.imports = some (target ++ "." ++ name)) ∧
      ∀ name, BindsLast body (.importFrom ⟨none, level⟩ [⟨name, none⟩]) name →
        bound? name scope.imports = some (joinDots (upward dirs level) ++ "." ++ name) := by
  obtain ⟨home, homed, package⟩ := scope_package clean source
  have same : (root.join (dirs ++ [file])).name = file := by simp [Path.join, Path.name]
  have higher : ∀ dir ∈ upward dirs level, Component dir :=
    fun dir member => clean dir (List.mem_of_mem_take member)
  have named : joinDots (upward dirs level) ≠ "" := by
    refine Text.joinDots_named higher ?_
    intro empty
    have size := congrArg List.length empty
    rw [upward, List.length_take, List.length_nil] at size
    omega
  obtain ⟨bare, below⟩ := absolute_upward clean package up inside
  refine ⟨home, homed, ?_⟩
  rw [same]
  intro body scope opened
  refine ⟨?_, ?_⟩
  · intro outer last name parts proper binds
    have written := Text.joinDots_named parts (by simp)
    have target : qualify (joinDots (upward dirs level)) (joinDots (outer ++ [last])) =
        joinDots (upward dirs level ++ outer ++ [last]) := by
      rw [Text.qualify_parts named (by simp), List.append_assoc]
    have landed : joinDots (upward dirs level ++ outer ++ [last]) ≠ "" := by
      rw [← target, qualify, if_neg named]
      intro empty
      simpa using congrArg String.length empty
    refine ⟨joinDots (upward dirs level ++ outer ++ [last]), homeOf_module proper, ?_, ?_⟩
    · have split : upward dirs level ++ outer ++ [last, "__init__.py"] =
          upward dirs level ++ outer ++ [last] ++ ["__init__.py"] := by simp
      rw [split, homeOf_package]
    · refine Scope.bound_lastImport opened binds ?_
      rw [Scope.importEntries, List.map_singleton, below _ written, target, qualify, if_neg landed]
      simp [bound?]
  · intro name binds
    refine Scope.bound_lastImport opened binds ?_
    rw [Scope.importEntries, List.map_singleton, bare, qualify, if_neg named]
    simp [bound?]

def borrowingBody : List Stmt :=
  [.importFrom ⟨some "core.types", 2⟩ [⟨"Base", none⟩], .importFrom ⟨none, 1⟩ [⟨"forms", none⟩]]

def borrowingScope : Scope :=
  { Scope.empty "app.web" true with
    imports := [("Base", "app.core.types.Base"), ("forms", "app.web.forms")] }

theorem borrowing_lands :
    homeOf ["app", "web", "__init__.py"] = some "app.web" ∧
    Scope.ofModule "app.web" true borrowingBody = .ok borrowingScope ∧
    (∃ target, homeOf ["app", "core", "types.py"] = some target ∧
      homeOf ["app", "core", "types", "__init__.py"] = some target ∧
      bound? "Base" borrowingScope.imports = some (target ++ "." ++ "Base")) ∧
    bound? "forms" borrowingScope.imports = some "app.web.forms" := by
  have homed : homeOf ["app", "web", "__init__.py"] = some "app.web" := by cbv
  have opened : Scope.ofModule "app.web" true borrowingBody = .ok borrowingScope := by cbv
  have listed : Source.topLevel borrowingBody = borrowingBody := by
    simp [borrowingBody, Source.topLevel]
  have path : joinDots (["core"] ++ ["types"]) = "core.types" := by decide
  have above : BindsLast borrowingBody
      (.importFrom ⟨some (joinDots (["core"] ++ ["types"])), 2⟩ [⟨"Base", none⟩]) "Base" := by
    rw [path]
    exact ⟨[], [.importFrom ⟨none, 1⟩ [⟨"forms", none⟩]], listed, by decide⟩
  have beside : BindsLast borrowingBody (.importFrom ⟨none, 1⟩ [⟨"forms", none⟩]) "forms" :=
    ⟨[.importFrom ⟨some "core.types", 2⟩ [⟨"Base", none⟩]], [], listed, by decide⟩
  have clean : ∀ dir ∈ ["app", "web"], Component dir := by decide
  obtain ⟨home, same, two⟩ :=
    relative_import_lands clean .package 2 (by decide) (by decide) ⟨.relative, []⟩
  cases homed.symm.trans same
  obtain ⟨other, same, one⟩ :=
    relative_import_lands clean .package 1 (by decide) (by decide) ⟨.relative, []⟩
  cases homed.symm.trans same
  refine ⟨homed, opened, ?_, ?_⟩
  · exact (two borrowingBody borrowingScope opened).1 ["core"] "types" "Base" (by decide) (by decide)
      above
  · exact (one borrowingBody borrowingScope opened).2 "forms" beside

end EndpointCatalog.Symbol
