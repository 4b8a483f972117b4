import EndpointCatalog.Proofs.Computable
import EndpointCatalog.Proofs.ImportBindings
import Mathlib

namespace EndpointCatalog.Source

theorem mapM_ok {f : α → Except ε β} {items : List α} {values : List β}
    (made : items.mapM f = .ok values) :
    List.Forall₂ (fun item value => f item = .ok value) items values := by
  induction items generalizing values with
  | nil =>
    cases made
    exact .nil
  | cons item rest ih =>
    rw [List.mapM_cons] at made
    obtain ⟨value, own, later⟩ := bind_ok made
    obtain ⟨others, behind, last⟩ := bind_ok later
    cases last
    exact .cons own (ih behind)

end EndpointCatalog.Source

namespace EndpointCatalog.Symbol

open Files (Path)
open Source (Scope Stmt Expr Decorator Parameters EvalError Argument rebindAll bind_ok mapM_ok)
open Text (qualify)

def typeExpr : Expr → Expr
  | .call function _ _ => function
  | expr => expr

def positionalArguments : Expr → List Expr
  | .call _ args _ => args
  | _ => []

-- What is unpacked into the call has no keyword.
def keywordArguments : Expr → List (String × Expr)
  | .call _ _ keywords => keywords.filterMap fun (key, value) => key.map (·, value)
  | _ => []

def KeywordsRead (scope : Scope) (given : List (String × Expr)) (entries : List (String × Argument)) :
    Prop :=
  List.Forall₂ (fun keyword entry => keyword.1 = entry.1 ∧ scope.literal keyword.2 = .ok entry.2)
    given entries

structure Marks (scope : Scope) (decorator : Decorator) (marker : Marker) : Prop where
  typeName : scope.resolve (typeExpr decorator.expr) = some marker.typeName
  args : List.Forall₂ (fun value argument => scope.literal value = .ok argument)
    (positionalArguments decorator.expr) marker.args
  keywords : ∃ entries, KeywordsRead scope (keywordArguments decorator.expr) entries ∧
    marker.keywords = rebindAll entries []
  line : marker.line = decorator.line

def namingDecorators (scope : Scope) (decorators : List Decorator) : List Decorator :=
  decorators.filter fun decorator => (scope.resolve (typeExpr decorator.expr)).isSome

def MarkersOf (scope : Scope) (decorators : List Decorator) (markers : List Marker) : Prop :=
  List.Forall₂ (Marks scope) (namingDecorators scope decorators) markers

def markedOf (scope : Scope) (decorators : List Decorator) (markers : List Marker) :
    List (Decorator × Marker) :=
  (namingDecorators scope decorators).zip markers

structure FunctionHead where
  line : Nat
  isAsync : Bool
  name : String
  parameters : Parameters
  decorators : List Decorator

def functionHead? : Stmt → Option FunctionHead
  | .functionDef line isAsync name parameters decorators _ =>
    some ⟨line, isAsync, name, parameters, decorators⟩
  | _ => none

def functionsOf (body : List Stmt) : List FunctionHead := body.filterMap functionHead?

-- Of several constructors the last one counts.
def constructorOf? (body : List Stmt) : Option FunctionHead :=
  ((functionsOf body).filter (·.name = "__init__")).getLast?

def markedWithin (scope : Scope) (decorators : List Decorator) (body : List Stmt) (type : TypeDecl) :
    List (Decorator × Marker) :=
  markedOf scope decorators type.markers ++
    ((functionsOf body).zip type.methods).flatMap fun (head, method) =>
      markedOf scope head.decorators method.markers

structure DescribesFunction (scope : Scope) (head : FunctionHead) (method : Method) : Prop where
  name : method.name = head.name
  markers : MarkersOf scope head.decorators method.markers
  line : method.line = head.line
  isAsync : method.isAsync = head.isAsync

-- A base that names no type keeps its place.
inductive RecordsBase (scope : Scope) (base : Expr) : String → Prop where
  | named (resolved : scope.resolve base = some name) (some : name ≠ "") :
      RecordsBase scope base name
  | nameless (nothing : ∀ name, scope.resolve base = some name → name = "") :
      RecordsBase scope base unresolvedBase

variable {scope : Scope}

theorem keywords_read {keywords : List (Option String × Expr)} {start bound : List (String × Argument)}
    (made : keywords.foldlM (fun done (key, value) =>
        match key with
        | some key => do return Source.rebind key (← scope.literal value) done
        | none => return done) start = Except.ok (ε := EvalError) bound) :
    ∃ entries, KeywordsRead scope (keywords.filterMap fun (key, value) => key.map (·, value)) entries ∧
      bound = rebindAll entries start := by
  induction keywords generalizing start with
  | nil =>
    cases made
    exact ⟨[], .nil, rfl⟩
  | cons keyword rest ih =>
    obtain ⟨key, value⟩ := keyword
    rw [List.foldlM_cons] at made
    obtain ⟨middle, own, later⟩ := bind_ok made
    obtain ⟨entries, each, rfl⟩ := ih later
    cases key with
    | none =>
      cases own
      exact ⟨entries, each, rfl⟩
    | some key =>
      obtain ⟨argument, spelled, last⟩ := bind_ok own
      cases last
      exact ⟨(key, argument) :: entries, .cons ⟨rfl, spelled⟩ each, rfl⟩

theorem plain_marks (bare : typeExpr expr = expr) (positional : positionalArguments expr = [])
    (keyed : keywordArguments expr = []) :
    ∀ marker ∈ (scope.resolve expr).map fun name => (⟨name, [], [], line⟩ : Marker),
      Marks scope ⟨expr, line⟩ marker := by
  intro marker kept
  obtain ⟨name, resolved, rfl⟩ := Option.map_eq_some_iff.mp kept
  refine ⟨by rw [bare]; exact resolved, ?_, ⟨[], ?_, rfl⟩, rfl⟩
  · rw [positional]
    exact .nil
  · rw [keyed]
    exact .nil

theorem ofDecorator_marks {decorator : Decorator}
    (made : Marker.ofDecorator scope decorator = .ok found) :
    found.isSome = (scope.resolve (typeExpr decorator.expr)).isSome ∧
      ∀ marker ∈ found, Marks scope decorator marker := by
  obtain ⟨expr, line⟩ := decorator
  cases expr with
  | call function args keywords =>
    unfold Marker.ofDecorator at made
    dsimp only at made
    cases resolved : scope.resolve function with
    | none =>
      rw [resolved] at made
      cases made
      simp [typeExpr, resolved]
    | some name =>
      rw [resolved] at made
      obtain ⟨arguments, given, later⟩ := bind_ok made
      obtain ⟨bound, keyed, last⟩ := bind_ok later
      cases last
      refine ⟨by simp [typeExpr, resolved], ?_⟩
      rintro marker ⟨⟩
      exact ⟨resolved, mapM_ok given, keywords_read keyed, rfl⟩
  | _ =>
    cases made
    exact ⟨Option.isSome_map, plain_marks rfl rfl rfl⟩

theorem markersOf_marks {decorators : List Decorator} {markers : List Marker}
    (made : markersOf scope decorators = .ok markers) : MarkersOf scope decorators markers := by
  obtain ⟨found, each, last⟩ := bind_ok made
  cases last
  have marked := mapM_ok each
  unfold MarkersOf namingDecorators
  clear made each
  induction marked with
  | nil => exact .nil
  | @cons decorator result rest others own _ ih =>
    obtain ⟨same, marks⟩ := ofDecorator_marks own
    rw [List.filter_cons, ← same]
    cases result with
    | none => simpa using ih
    | some marker => simpa using List.Forall₂.cons (marks marker rfl) ih

theorem methodsOf_describes {methods : List Method} {body : List Stmt}
    (made : methodsOf scope body = .ok (methods, parameters)) :
    List.Forall₂ (DescribesFunction scope) (functionsOf body) methods ∧
      parameters = (constructorOf? body).map fun head => constructorParameters head.parameters := by
  induction body generalizing methods parameters with
  | nil =>
    cases made
    exact ⟨.nil, rfl⟩
  | cons statement rest ih =>
    cases statement with
    | functionDef line isAsync name own decorators block =>
      unfold methodsOf at made
      obtain ⟨markers, marked, later⟩ := bind_ok made
      obtain ⟨⟨others, below⟩, behind, last⟩ := bind_ok later
      cases last
      obtain ⟨each, same⟩ := ih behind
      refine ⟨.cons ⟨rfl, markersOf_marks marked, rfl, rfl⟩ each, ?_⟩
      have listed : functionsOf (.functionDef line isAsync name own decorators block :: rest) =
          ⟨line, isAsync, name, own, decorators⟩ :: functionsOf rest := rfl
      rw [same, constructorOf?, constructorOf?, listed, List.filter_cons]
      by_cases makes : name = "__init__"
      · rw [if_pos makes, if_pos (by simpa using makes), List.getLast?_cons]
        cases ((functionsOf rest).filter (·.name = "__init__")).getLast? <;> rfl
      · rw [if_neg makes, if_neg (by simpa using makes), Option.or_none]
    | _ => exact ih made

theorem markedOf_marks (marked : MarkersOf scope decorators markers)
    (member : (decorator, marker) ∈ markedOf scope decorators markers) :
    Marks scope decorator marker :=
  (List.forall₂_iff_zip.mp marked).2 member

theorem ofClass_parts {path : Path}
    (made : TypeDecl.ofClass scope path outer line name bases decorators body = .ok type) :
    ∃ markers methods, MarkersOf scope decorators markers ∧
      List.Forall₂ (DescribesFunction scope) (functionsOf body) methods ∧
      type = { qualname := qualify outer name, name := name, home := scope.home,
               bases := bases.map (baseName scope), markers := markers, methods := methods,
               parameters :=
                 (constructorOf? body).map fun head => constructorParameters head.parameters,
               path := some path, line := line } := by
  unfold TypeDecl.ofClass at made
  obtain ⟨markers, marked, later⟩ := bind_ok made
  obtain ⟨⟨methods, parameters⟩, found, last⟩ := bind_ok later
  cases last
  obtain ⟨described, rfl⟩ := methodsOf_describes found
  exact ⟨markers, methods, markersOf_marks marked, described, rfl⟩

theorem markedWithin_marks {path : Path}
    (made : TypeDecl.ofClass scope path outer line name bases decorators body = .ok type)
    (member : (decorator, marker) ∈ markedWithin scope decorators body type) :
    Marks scope decorator marker := by
  obtain ⟨markers, methods, marked, described, rfl⟩ := ofClass_parts made
  rcases List.mem_append.mp member with own | inside
  · exact markedOf_marks marked own
  · obtain ⟨⟨head, method⟩, listed, inside⟩ := List.mem_flatMap.mp inside
    have describes := (List.forall₂_iff_zip.mp described).2 listed
    exact markedOf_marks describes.markers inside

theorem baseName_records : RecordsBase scope base (baseName scope base) := by
  unfold baseName
  cases resolved : scope.resolve base with
  | none => exact .nameless (by simp [resolved])
  | some name =>
    by_cases empty : name = ""
    · simpa [empty] using RecordsBase.nameless (by simp [resolved, empty])
    · simpa [empty] using RecordsBase.named resolved empty

end EndpointCatalog.Symbol
