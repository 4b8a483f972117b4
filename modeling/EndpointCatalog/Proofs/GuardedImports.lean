import EndpointCatalog.Proofs.ImportSpellings
import Mathlib

namespace EndpointCatalog.Source

-- A statement in a body or in a block of conditions and attempts below it, with the statements of the
-- top level in front of it and behind it.
inductive Placed (statement : Stmt) : List Stmt → List Stmt → List Stmt → Prop where
  | here : Placed statement (front ++ statement :: back) (topLevel front) (topLevel back)
  | inside (blocks : openBlocks outer = earlier ++ nested :: later)
      (below : Placed statement nested before after) :
      Placed statement (front ++ outer :: back)
        (topLevel front ++ (earlier.flatMap topLevel ++ before))
        (after ++ later.flatMap topLevel ++ topLevel back)

theorem topLevel_append : topLevel (first ++ second) = topLevel first ++ topLevel second := by
  induction first with
  | nil => simp [topLevel]
  | cons statement rest ih =>
    rw [List.cons_append, topLevel_cons, ih, topLevel_cons statement rest, List.append_assoc]

theorem topLevel_blocks (blocks : openBlocks outer ≠ []) :
    topLevel [outer] = (openBlocks outer).flatMap topLevel := by
  cases outer with
  | conditional | attempt => simp [topLevel, openBlocks, topLevelOfHandlers_blocks]
  | _ => exact absurd rfl blocks

theorem placed_topLevel (placed : Placed statement body before after) :
    topLevel body = before ++ topLevel [statement] ++ after := by
  induction placed with
  | here => rw [topLevel_append, topLevel_cons, List.append_assoc]
  | @inside outer earlier nested later before after front back blocks below ih =>
    have opened : topLevel [outer] = (openBlocks outer).flatMap topLevel :=
      topLevel_blocks (by simp [blocks])
    rw [topLevel_append, topLevel_cons, opened, blocks, List.flatMap_append, List.flatMap_cons, ih]
    simp only [List.append_assoc]

namespace Scope

variable {home : String} {isPackage : Bool}

theorem lastImport_attempt :
    lastImport home isPackage (topLevel [.attempt body handlers orelse final]) name =
      (lastImport home isPackage (topLevel orelse ++ topLevel final) name).or
        ((lastImport home isPackage (topLevelOfHandlers handlers) name).or
          (lastImport home isPackage (topLevel body) name)) := by
  have parts : topLevel [.attempt body handlers orelse final] =
      topLevel body ++ topLevelOfHandlers handlers ++ (topLevel orelse ++ topLevel final) := by
    simp [topLevel]
  rw [parts, lastImport_append]
  exact congrArg (Option.or _) lastImport_append

end Scope

end EndpointCatalog.Source

namespace EndpointCatalog.Symbol

open Source (Scope Stmt Expr Placed NamesClass topLevel topLevelOfHandlers importedNames bound?
  openBlocks placed_topLevel)
open Source.Scope (lastImport lastImport_append lastImport_none lastImport_attempt)

-- The last import of a handler decides. The name has what the attempt gives it exactly when the
-- handlers import the same or nothing under the name.
theorem guarded_import {scope : Scope} {handlers : List (Option String × List Stmt)}
    (opened : Scope.ofModule home isPackage body = .ok scope)
    (placed : Placed (.attempt block handlers orelse final) body before after)
    (alone : ∀ statement ∈ before ++ (topLevel orelse ++ topLevel final) ++ after,
      name ∉ importedNames statement) :
    bound? name scope.imports =
      (lastImport home isPackage (topLevelOfHandlers handlers) name).or
        (lastImport home isPackage (topLevel block) name) ∧
    ∀ primary, lastImport home isPackage (topLevel block) name = some primary →
      (bound? name scope.imports = some primary ↔
        ∀ fallback, lastImport home isPackage (topLevelOfHandlers handlers) name = some fallback →
          fallback = primary) := by
  have whole : bound? name scope.imports = lastImport home isPackage (topLevel body) name :=
    Scope.ofModule_imports opened
  simp only [List.forall_mem_append] at alone
  obtain ⟨⟨front, others⟩, back⟩ := alone
  have bound : bound? name scope.imports =
      (lastImport home isPackage (topLevelOfHandlers handlers) name).or
        (lastImport home isPackage (topLevel block) name) := by
    rw [whole, placed_topLevel placed, lastImport_append, lastImport_append, lastImport_attempt,
      lastImport_none back, lastImport_none front,
      lastImport_none (List.forall_mem_append.mpr others), Option.none_or, Option.none_or,
      Option.or_none]
  refine ⟨bound, fun primary first => ?_⟩
  rw [bound, first]
  cases lastImport home isPackage (topLevelOfHandlers handlers) name <;> simp

def nestedBody : List Stmt :=
  [.importModules [⟨"os", none⟩], .conditional (.name "flag") fallbackBody []]

def nestedScope : Scope :=
  { Scope.empty "app.web" false with imports := [("os", "os"), ("forms", "app.forms")] }

theorem nested_placed :
    Placed (.attempt [.importModules [⟨"app.forms", some "forms"⟩]]
      [(none, [.importFrom ⟨some "app", 0⟩ [⟨"forms", none⟩]])] [] []) nestedBody
      [.importModules [⟨"os", none⟩]] [] := by
  have alone : Placed (.attempt [.importModules [⟨"app.forms", some "forms"⟩]]
      [(none, [.importFrom ⟨some "app", 0⟩ [⟨"forms", none⟩]])] [] []) ([] ++ fallbackBody) _ _ := .here
  have blocks : openBlocks (.conditional (.name "flag") fallbackBody []) =
      [] ++ fallbackBody :: [[]] := rfl
  have inside : Placed _ ([.importModules [⟨"os", none⟩]] ++ _ :: []) _ _ := .inside blocks alone
  simpa [nestedBody, topLevel] using inside

theorem nested_imports :
    Scope.ofModule "app.web" false nestedBody = .ok nestedScope ∧
    lastImport "app.web" false (topLevel [.importModules [⟨"app.forms", some "forms"⟩]]) "forms" =
      some "app.forms" ∧
    bound? "forms" nestedScope.imports = some "app.forms" := by
  have opened : Scope.ofModule "app.web" false nestedBody = .ok nestedScope := by cbv
  have primary : lastImport "app.web" false
      (topLevel [.importModules [⟨"app.forms", some "forms"⟩]]) "forms" = some "app.forms" := by cbv
  have alone : ∀ statement ∈ [.importModules [⟨"os", none⟩]] ++ (topLevel [] ++ topLevel []) ++ [],
      "forms" ∉ importedNames statement := by
    simp only [topLevel]
    decide
  obtain ⟨-, kept⟩ := guarded_import opened nested_placed alone
  refine ⟨opened, primary, (kept "app.forms" primary).mpr fun fallback caught => ?_⟩
  have same : lastImport "app.web" false (topLevelOfHandlers
      [(none, [.importFrom ⟨some "app", 0⟩ [⟨"forms", none⟩]])]) "forms" = some "app.forms" := by cbv
  exact Option.some.inj (caught.symm.trans same)

def slowBody : List Stmt :=
  [.attempt [.importFrom ⟨some "fast", 0⟩ [⟨"Base", none⟩]]
      [(none, [.importFrom ⟨some "slow", 0⟩ [⟨"Base", none⟩]])] [] [],
    .classDef 5 "A" [.name "Base"] [] [.other]]

def slowScope : Scope := ⟨"m", "", [("Base", "slow.Base")], ["A"], [], []⟩

theorem fallback_wins :
    Placed (.attempt [.importFrom ⟨some "fast", 0⟩ [⟨"Base", none⟩]]
      [(none, [.importFrom ⟨some "slow", 0⟩ [⟨"Base", none⟩]])] [] []) slowBody
      [] [.classDef 5 "A" [.name "Base"] [] [.other]] ∧
    (∀ statement ∈ [.classDef 5 "A" [.name "Base"] [] [.other]],
      "Base" ∉ importedNames statement) ∧
    lastImport "m" false (topLevel [.importFrom ⟨some "fast", 0⟩ [⟨"Base", none⟩]]) "Base" =
      some "fast.Base" ∧
    Scope.ofModule "m" false slowBody = .ok slowScope ∧
    bound? "Base" slowScope.imports = some "slow.Base" := by
  refine ⟨?_, by simp [importedNames], by cbv, by cbv, by decide⟩
  have alone : Placed (.attempt [.importFrom ⟨some "fast", 0⟩ [⟨"Base", none⟩]]
      [(none, [.importFrom ⟨some "slow", 0⟩ [⟨"Base", none⟩]])] [] []) ([] ++ slowBody) _ _ := .here
  simpa [topLevel] using alone

end EndpointCatalog.Symbol
