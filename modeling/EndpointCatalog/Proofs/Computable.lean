import EndpointCatalog.Proofs.Contribution

namespace EndpointCatalog.Source

def Expr.TooLarge (expr : Expr) : Prop := expr.evaluate = .error .wholeTooLarge

def assigned? (value : Expr) : Expr → Option Expr
  | .name _ => some value
  | _ => none

def constantOf? : Stmt → Option Expr
  | .assign [target] value => assigned? value target
  | .annotated target (some value) => assigned? value target
  | _ => none

namespace Scope

variable {scope next : Scope} {body : List Stmt}

theorem remember_isOk :
    (scope.remember target value).isOk = true ↔
      ∀ constant ∈ assigned? value target, ¬ constant.TooLarge := by
  cases target with
  | name id =>
    simp only [assigned?, Option.mem_some_iff, forall_eq', remember, Expr.TooLarge]
    cases value.evaluate with
    | ok computed => simp [Except.isOk, Except.toBool]
    | error e => cases e <;> simp [Except.isOk, Except.toBool]
  | _ => simp [remember, assigned?, Except.isOk, Except.toBool]

theorem step_isOk {statement : Stmt} :
    (scope.step statement).isOk = true ↔
      ∀ constant ∈ constantOf? statement, ¬ constant.TooLarge := by
  unfold step constantOf?
  split
  · simp [Except.isOk, Except.toBool]
  · simp [Except.isOk, Except.toBool]
  · simp [Except.isOk, Except.toBool]
  · simp [Except.isOk, Except.toBool]
  · exact remember_isOk
  · exact remember_isOk
  · rename_i single annotates
    split
    · exact absurd rfl (single _ _)
    · exact absurd rfl (annotates _ _)
    · simp [Except.isOk, Except.toBool]

def constantsOf (body : List Stmt) : List Expr := (topLevel body).filterMap constantOf?

theorem ofModule_isOk {home : String} :
    (ofModule home isPackage body).isOk = true ↔ ∀ value ∈ constantsOf body, ¬ value.TooLarge := by
  rw [constantsOf, List.forall_mem_filterMap]
  exact foldlM_isOk fun _ _ => step_isOk

theorem home_addImport : (scope.addImport name target).home = scope.home := rfl

theorem step_home (stepped : scope.step statement = .ok next) :
    next.home = scope.home := by
  unfold step at stepped
  split at stepped
  · cases stepped
    exact Symbol.foldl_keeps Scope.home fun _ imported => by cases imported.localName <;> rfl
  · cases stepped
    exact Symbol.foldl_keeps Scope.home fun _ _ => home_addImport
  · cases stepped
    rfl
  · cases stepped
    split <;> rfl
  · obtain ⟨constants, rfl⟩ := remember_constants stepped
    rfl
  · obtain ⟨constants, rfl⟩ := remember_constants stepped
    rfl
  · cases stepped
    rfl

theorem ofModule_home (opened : ofModule outer isPackage body = .ok scope) :
    scope.home = outer :=
  foldlM_keeps Scope.home (fun _ _ _ => step_home) opened

theorem literal_isOk : (scope.literal value).isOk = true ↔ ¬ value.TooLarge := by
  unfold literal Expr.TooLarge
  cases value.evaluate with
  | ok computed => simp [Except.isOk, Except.toBool]
  | error e =>
    cases e with
    | wholeTooLarge => simp [Except.isOk, Except.toBool]
    | notLiteral =>
      dsimp only
      split
      · split <;> simp [Except.isOk, Except.toBool]
      · simp [Except.isOk, Except.toBool]

end Scope

end EndpointCatalog.Source

namespace EndpointCatalog.Symbol

open Files (Path)
open Source (Scope Stmt Expr Decorator EvalError bind_both mapM_isOk foldlM_isOk)
open Source.Scope (literal_isOk)

variable {scope : Scope} {body : List Stmt}

-- What is unpacked into a call is not looked at.
def argumentsOf (scope : Scope) (decorator : Decorator) : List Expr :=
  match decorator.expr with
  | .call function args keywords =>
    match scope.resolve function with
    | none => []
    | some _ => args ++ keywords.filterMap fun (key, value) => key.map fun _ => value
  | _ => []

def methodDecorators (body : List Stmt) : List Decorator :=
  body.flatMap fun
    | .functionDef _ _ _ _ decorators _ => decorators
    | _ => []

-- The decorators of the classes below a body and of their methods.
def decoratorsOf : List Stmt → List Decorator
  | [] => []
  | .classDef _ _ _ decorators body :: rest =>
    decorators ++ methodDecorators body ++ decoratorsOf body ++ decoratorsOf rest
  | _ :: rest => decoratorsOf rest

def Computes (scope : Scope) (decorators : List Decorator) : Prop :=
  ∀ decorator ∈ decorators, ∀ value ∈ argumentsOf scope decorator, ¬ value.TooLarge

theorem computes_append :
    Computes scope (first ++ second) ↔ Computes scope first ∧ Computes scope second :=
  List.forall_mem_append

theorem ofDecorator_isOk {decorator : Decorator} :
    (Marker.ofDecorator scope decorator).isOk = true ↔
      ∀ value ∈ argumentsOf scope decorator, ¬ value.TooLarge := by
  obtain ⟨expr, line⟩ := decorator
  cases expr with
  | call function args keywords =>
    unfold Marker.ofDecorator argumentsOf
    dsimp only
    cases scope.resolve function with
    | none => simp [pure, Except.pure, Except.isOk, Except.toBool]
    | some name =>
      dsimp only
      rw [List.forall_mem_append]
      refine (bind_both fun computed => ?_).trans (and_congr_left' ?_)
      · refine (bind_both fun bound => ⟨fun _ => trivial, fun _ => rfl⟩).trans ?_
        rw [and_true, List.forall_mem_filterMap]
        refine foldlM_isOk ?_
        rintro done ⟨key, value⟩
        cases key with
        | none => simp [pure, Except.pure, Except.isOk, Except.toBool]
        | some key =>
          have bound : (scope.literal value >>= fun argument =>
                pure (Source.rebind key argument done)).isOk = true ↔ ¬ value.TooLarge := by
            refine (bind_both fun argument => ⟨fun _ => trivial, fun _ => rfl⟩).trans ?_
            rw [and_true, literal_isOk]
          simpa using bound
      · simp only [mapM_isOk, literal_isOk]
  | _ => simp [Marker.ofDecorator, argumentsOf, pure, Except.pure, Except.isOk, Except.toBool]

theorem markersOf_isOk {decorators : List Decorator} :
    (markersOf scope decorators).isOk = true ↔ Computes scope decorators := by
  refine (bind_both fun markers => ⟨fun _ => trivial, fun _ => rfl⟩).trans ?_
  simp only [and_true, mapM_isOk, ofDecorator_isOk, Computes]

theorem methodsOf_isOk : (methodsOf scope body).isOk = true ↔ Computes scope (methodDecorators body) := by
  induction body with
  | nil => simp [methodsOf, methodDecorators, Computes, pure, Except.pure, Except.isOk, Except.toBool]
  | cons statement rest ih =>
    cases statement with
    | functionDef line isAsync name parameters decorators inner =>
      rw [methodDecorators, List.flatMap_cons, computes_append, ← methodDecorators, ← ih,
        ← markersOf_isOk]
      refine bind_both fun markers => ?_
      refine (bind_both fun later => ⟨fun _ => trivial, fun _ => rfl⟩).trans ?_
      rw [and_true]
    | _ => exact ih

theorem ofClass_isOk {path : Path} {decorators : List Decorator} :
    (TypeDecl.ofClass scope path outer line name bases decorators body).isOk = true ↔
      Computes scope decorators ∧ Computes scope (methodDecorators body) := by
  rw [← markersOf_isOk, ← methodsOf_isOk]
  refine bind_both fun markers => ?_
  refine (bind_both fun members => ⟨fun _ => trivial, fun _ => rfl⟩).trans ?_
  rw [and_true]

theorem refusal_none {entries : List (Except EvalError TypeDecl)} :
    refusal? entries = none ↔ ∀ entry ∈ entries, entry.isOk = true := by
  induction entries with
  | nil => simp [refusal?]
  | cons entry rest ih =>
    cases entry with
    | error e => simp [refusal?, Except.isOk, Except.toBool]
    | ok type => simp [refusal?, ih, Except.isOk, Except.toBool]

theorem declarations_isOk {path : Path} :
    refusal? (declarations scope path outer body) = none ↔ Computes scope (decoratorsOf body) := by
  rw [refusal_none]
  fun_induction declarations scope path outer body with
  | case1 outer => simp [decoratorsOf, Computes]
  | case2 outer line name bases decorators body rest below behind =>
    rw [decoratorsOf, computes_append, computes_append, computes_append, ← below, ← behind,
      ← ofClass_isOk, List.forall_mem_append, List.forall_mem_cons]
  | case3 outer statement rest other behind =>
    rw [behind, decoratorsOf]
    exact other

-- No constant of a module and no argument of a decorator in it is too large.
structure Computable (path : Path) (home : String) (body : List Stmt) : Prop where
  constants : ∀ value ∈ Scope.constantsOf body, ¬ value.TooLarge
  arguments : ∀ scope, Scope.ofModule home (path.name = "__init__.py") body = .ok scope →
    Computes scope (decoratorsOf body)

theorem ofModule_failure {path : Path} :
    (ofModule path home body).failure = none ↔ Computable path home body := by
  unfold ofModule
  cases opened : Scope.ofModule home (path.name = "__init__.py") body with
  | error e =>
    constructor
    · intro absurd
      cases absurd
    · intro computable
      have accepted : (Scope.ofModule home (path.name = "__init__.py") body).isOk = true :=
        Scope.ofModule_isOk.mpr computable.constants
      rw [opened] at accepted
      cases accepted
  | ok scope =>
    dsimp only
    rw [Option.map_eq_none_iff, declarations_isOk]
    constructor
    · intro computes
      refine ⟨Scope.ofModule_isOk.mp (by rw [opened]; rfl), ?_⟩
      rintro other same
      rw [opened] at same
      cases same
      exact computes
    · intro computable
      exact computable.arguments scope opened

end EndpointCatalog.Symbol
