import EndpointCatalog.Proofs.DottedNames
import EndpointCatalog.Proofs.Outcomes
import EndpointCatalog.Proofs.Yields
import EndpointCatalog.Source.Scope
import EndpointCatalog.Source.Statement

namespace EndpointCatalog.Source

open Text (Undotted)

theorem identifier_lacks (begins : Text.isIdentifierStart c = false)
    (inside : Text.isIdentifierPart c = false) (spelled : Text.isIdentifier word = true) :
    c ∉ word := by
  unfold Text.isIdentifier at spelled
  split at spelled
  · cases spelled
  · rename_i first rest
    rw [Bool.and_eq_true, List.all_eq_true] at spelled
    intro member
    rcases List.mem_cons.mp member with rfl | later
    · rw [begins] at spelled
      exact absurd spelled.1 (by decide)
    · exact absurd (spelled.2 c later) (by simp [inside])

theorem identifier_undotted (spelled : Text.isIdentifier name.toList = true) : Undotted name :=
  identifier_lacks (by decide) (by decide) spelled

theorem nameOf_undotted (spelled : nameOf? word = some name) : Undotted name := by
  unfold nameOf? at spelled
  split at spelled
  · cases spelled
  · dsimp only at spelled
    split at spelled
    · rename_i identifier
      cases spelled
      exact identifier_undotted identifier
    · cases spelled

namespace Parser

theorem name_undotted : Yields name Undotted := by
  have spelled : Yields name? fun found => ∀ name ∈ found, Undotted name := by
    refine yields_then fun token => ?_
    split
    · split
      · rename_i given
        refine yields_then fun _ => yields_pure ?_
        intro name member
        cases member
        exact nameOf_undotted given
      · exact yields_pure (by simp)
    · exact yields_pure (by simp)
  refine yields_bind spelled ?_
  intro found undotted
  cases found with
  | none => exact yields_fail
  | some name => exact yields_pure (undotted name rfl)

end Parser

def PlainImport : Stmt → Prop
  | .importModules names => ∀ imported ∈ names, ∀ name ∈ imported.localName, Undotted name
  | .importFrom _ names => ∀ imported ∈ names, Undotted (imported.localName.getD imported.name)
  | _ => True

def PlainImports (body : List Stmt) : Prop := ∀ statement ∈ topLevel body, PlainImport statement

theorem topLevel_cons (statement : Stmt) (rest : List Stmt) :
    topLevel (statement :: rest) = topLevel [statement] ++ topLevel rest := by
  cases statement <;> simp [topLevel]

theorem plainImports_each :
    PlainImports body ↔ ∀ statement ∈ body, PlainImports [statement] := by
  unfold PlainImports
  induction body with
  | nil => simp [topLevel]
  | cons statement rest ih =>
    rw [topLevel_cons, List.forall_mem_append, List.forall_mem_cons, ih]

-- A statement that the top level does not descend into.
def Whole : Stmt → Prop
  | .conditional .. | .attempt .. => False
  | _ => True

theorem plainImports_alone (whole : Whole statement) (plain : PlainImport statement) :
    PlainImports [statement] := by
  cases statement with
  | conditional | attempt => exact whole.elim
  | _ => simpa [PlainImports, topLevel] using plain

theorem plainImports_conditional :
    PlainImports [.conditional test body orelse] ↔ PlainImports body ∧ PlainImports orelse := by
  simp [PlainImports, topLevel, or_imp, forall_and]

theorem topLevelOfHandlers_blocks {handlers : List (Option String × List Stmt)} :
    topLevelOfHandlers handlers = (handlers.map (·.2)).flatMap topLevel := by
  induction handlers with
  | nil => simp [topLevelOfHandlers]
  | cons handler rest ih =>
    obtain ⟨caught, body⟩ := handler
    simp [topLevelOfHandlers, ih]

theorem topLevelOfHandlers_mem {handlers : List (Option String × List Stmt)} :
    statement ∈ topLevelOfHandlers handlers ↔ ∃ handler ∈ handlers, statement ∈ topLevel handler.2 := by
  rw [topLevelOfHandlers_blocks, List.flatMap_map, List.mem_flatMap]

theorem plainImports_attempt :
    PlainImports [.attempt body handlers orelse final] ↔
      PlainImports body ∧ (∀ handler ∈ handlers, PlainImports handler.2) ∧ PlainImports orelse ∧
        PlainImports final := by
  simp only [PlainImports, topLevel, List.append_nil, List.forall_mem_append, topLevelOfHandlers_mem]
  constructor
  · rintro ⟨⟨⟨first, caught⟩, second⟩, last⟩
    exact ⟨first, fun handler member statement inside => caught statement ⟨handler, member, inside⟩,
      second, last⟩
  · rintro ⟨first, caught, second, last⟩
    refine ⟨⟨⟨first, ?_⟩, second⟩, last⟩
    rintro statement ⟨handler, member, inside⟩
    exact caught handler member statement inside

namespace Grammar

open EndpointCatalog.Source.Parser

abbrev YieldsPlain (p : Parser Stmt) : Prop := Yields p fun statement => PlainImports [statement]

theorem importedName_plain (path : Parser String) (spelled : Yields path P) :
    Yields (importedName path) fun imported =>
      (∀ name ∈ imported.localName, Undotted name) ∧
        (imported.localName = none → P imported.name) := by
  refine yields_bind spelled fun name holds => yields_then fun renamed => ?_
  split
  · refine yields_bind name_undotted fun other undotted => yields_pure ?_
    simpa using undotted
  · exact yields_pure (by simpa using holds)

theorem boundName_undotted {imported : ImportedName}
    (plain : (∀ name ∈ imported.localName, Undotted name) ∧
      (imported.localName = none → Undotted imported.name)) :
    Undotted (imported.localName.getD imported.name) := by
  cases bound : imported.localName with
  | none => exact plain.2 bound
  | some name => exact plain.1 name bound

theorem importFrom_plain : YieldsPlain importFrom := by
  have each := importedName_plain name name_undotted
  unfold importFrom
  refine yields_then fun level => yields_then fun bare => ?_
  extract_lets onward
  have taken : ∀ path, YieldsPlain (onward path) := by
    intro path
    dsimp only [onward]
    split
    · exact yields_failed
    · refine yields_then fun _ => yields_then fun all => ?_
      split
      · exact yields_pure (plainImports_alone trivial trivial)
      · refine yields_then fun opened => ?_
        split
        · refine yields_bind (yields_commaList each) fun found plain => ?_
          refine yields_then fun _ => yields_pure (plainImports_alone trivial ?_)
          exact fun imported member => boundName_undotted (plain imported member)
        · refine yields_bind (yields_commaSeparated each) fun names plain => ?_
          refine yields_pure (plainImports_alone trivial ?_)
          exact fun imported member => boundName_undotted (plain imported member)
  split
  · exact yields_then fun path => taken path
  · exact yields_then fun path => taken path

theorem expressionStatement_plain (nested : Nested) : YieldsPlain (expressionStatement nested) := by
  unfold expressionStatement
  refine yields_then fun isYield => yields_then fun first => yields_then fun assigns => ?_
  split
  · exact yields_then fun found => yields_pure (plainImports_alone trivial trivial)
  · refine yields_then fun annotates => ?_
    split
    · split
      · exact yields_fail
      · refine yields_then fun _ => yields_then fun _ => yields_then fun assigned => ?_
        split
        · exact yields_then fun value => yields_pure (plainImports_alone trivial trivial)
        · exact yields_pure (plainImports_alone trivial trivial)
    · refine yields_then fun augments => ?_
      split
      · split
        · exact yields_then fun value => yields_pure (plainImports_alone trivial trivial)
        · exact yields_fail
      · exact yields_pure (plainImports_alone trivial trivial)

theorem simpleStatement_plain (nested : Nested) : YieldsPlain (simpleStatement nested) := by
  have other : YieldsPlain (pure .other) := yields_pure (plainImports_alone trivial trivial)
  unfold simpleStatement
  refine yields_then fun token => ?_
  split
  · exact yields_then fun _ => other
  · exact yields_then fun _ => other
  · exact yields_then fun _ => other
  · refine yields_then fun _ => yields_then fun ended => ?_
    split
    · exact other
    · exact yields_then fun _ => other
  · refine yields_then fun _ => yields_then fun ended => ?_
    split
    · exact other
    · refine yields_then fun _ => yields_then fun caused => ?_
      split
      · exact yields_then fun _ => other
      · exact other
  · exact yields_then fun _ => yields_then fun _ => other
  · exact yields_then fun _ => yields_then fun _ => other
  · exact yields_then fun _ => yields_then fun _ =>
      yields_pure (plainImports_alone trivial trivial)
  · refine yields_then fun _ => yields_then fun _ => yields_then fun comma => ?_
    split
    · exact yields_then fun _ => other
    · exact other
  · have each := importedName_plain dottedName (P := fun _ => True) fun _ _ _ _ _ => trivial
    refine yields_then fun _ => yields_bind (yields_commaSeparated each) fun names plain => ?_
    exact yields_pure (plainImports_alone trivial fun imported member => (plain imported member).1)
  · exact yields_then fun _ => importFrom_plain
  · exact expressionStatement_plain nested

theorem simpleStatements_plain (nested : Nested) : Yields (simpleStatements nested) PlainImports := by
  unfold simpleStatements
  refine yields_bind (simpleStatement_plain nested) fun first plain => ?_
  refine yields_bind (P := fun state => ∀ statement ∈ state.1, PlainImports [statement]) ?_ ?_
  · refine yields_repeating ?_ (by simpa using plain)
    rintro ⟨earlier, closed⟩ all
    dsimp only
    split
    · exact yields_pure (by simp)
    · refine yields_then fun more => ?_
      split
      · refine yields_then fun ended => ?_
        split
        · refine yields_pure ?_
          rintro _ ⟨rfl⟩
          exact all
        · refine yields_bind (simpleStatement_plain nested) fun next plain => yields_pure ?_
          rintro _ ⟨rfl⟩
          exact List.forall_mem_cons.mpr ⟨plain, all⟩
      · exact yields_pure (by simp)
  · intro state all
    refine yields_then fun _ => yields_pure (plainImports_each.mpr ?_)
    exact fun statement member => all statement (List.mem_reverse.mp member)

theorem whileLoop_plain (inside : Inside) : YieldsPlain (whileLoop inside) :=
  yields_then fun _ => yields_then fun _ => yields_then fun _ => yields_then fun _ =>
    yields_pure (plainImports_alone trivial trivial)

theorem forLoop_plain (inside : Inside) : YieldsPlain (forLoop inside) :=
  yields_then fun _ => yields_then fun _ => yields_then fun _ => yields_then fun _ =>
    yields_then fun _ => yields_then fun _ => yields_pure (plainImports_alone trivial trivial)

theorem context_plain (inside : Inside) : YieldsPlain (context inside) := by
  unfold context
  refine yields_then fun _ => ?_
  extract_lets wrapped onward
  have whole : ∀ items, YieldsPlain (onward items) := fun _ =>
    yields_then fun _ => yields_pure (plainImports_alone trivial trivial)
  refine yields_then fun found => ?_
  split
  · exact yields_then whole
  · exact yields_then whole

theorem functionDef_plain (inside : Inside) (above : List Decorator) :
    YieldsPlain (functionDef inside start isAsync above) := by
  unfold functionDef
  refine yields_then fun _ => yields_then fun name => yields_then fun _ =>
    yields_then fun parameters => yields_then fun _ => yields_then fun arrow => ?_
  split
  · exact yields_then fun _ => yields_then fun body =>
      yields_pure (plainImports_alone trivial trivial)
  · exact yields_then fun body => yields_pure (plainImports_alone trivial trivial)

theorem classDef_plain (inside : Inside) (above : List Decorator) :
    YieldsPlain (classDef inside start above) := by
  unfold classDef
  refine yields_then fun _ => yields_then fun name => yields_then fun opens => ?_
  extract_lets onward
  have whole : ∀ passed, YieldsPlain (onward passed) := fun _ =>
    yields_then fun _ => yields_pure (plainImports_alone trivial trivial)
  split
  · exact yields_then whole
  · exact yields_then whole

theorem decorated_plain (inside : Inside) : YieldsPlain (decorated inside) := by
  unfold decorated
  refine yields_then fun above => yields_then fun start => yields_then fun isClass => ?_
  split
  · exact classDef_plain inside above
  · exact yields_then fun isAsync => functionDef_plain inside above

theorem choice_plain (inside : Inside) : YieldsPlain (choice inside) := by
  unfold choice
  refine yields_then fun _ => yields_then fun found => ?_
  obtain ⟨items, several⟩ := found
  dsimp only
  split
  · exact yields_fail
  · exact yields_then fun _ => yields_then fun _ => yields_then fun _ => yields_then fun cases =>
      yields_then fun _ => yields_pure (plainImports_alone trivial trivial)

section

variable {inside : Inside} (block : Yields inside.block PlainImports)
include block

theorem suite_plain : Yields (suite inside) PlainImports := by
  unfold suite
  refine yields_then fun _ => yields_then fun broken => ?_
  split
  · refine yields_then fun _ => yields_bind block fun statements plain => ?_
    exact yields_then fun _ => yields_pure plain
  · exact simpleStatements_plain inside.nested

theorem orElse_plain : Yields (orElse inside) PlainImports := by
  unfold orElse
  refine yields_then fun present => ?_
  split
  · exact suite_plain block
  · exact yields_pure (by simp [PlainImports, topLevel])

theorem conditional_plain : YieldsPlain (conditional inside) := by
  unfold conditional
  refine yields_then fun _ => yields_then fun test => ?_
  refine yields_bind (suite_plain block) fun body first => ?_
  refine yields_bind (P := fun branches => ∀ branch ∈ branches, PlainImports branch.2) ?_ ?_
  · refine yields_repeating ?_ (by simp)
    intro branches earlier
    refine yields_then fun another => ?_
    split
    · refine yields_then fun test => yields_bind (suite_plain block) fun body plain => yields_pure ?_
      rintro _ ⟨rfl⟩
      exact List.forall_mem_cons.mpr ⟨plain, earlier⟩
    · exact yields_pure (by simp)
  · intro branches all
    refine yields_bind (orElse_plain block) fun last plain => yields_pure ?_
    refine plainImports_conditional.mpr ⟨first, ?_⟩
    induction branches generalizing last with
    | nil => exact plain
    | cons branch rest ih =>
      obtain ⟨own, others⟩ := List.forall_mem_cons.mp all
      exact ih others _ (plainImports_conditional.mpr ⟨own, plain⟩)

theorem handlers_plain :
    Yields (handlers inside) fun found => ∀ handler ∈ found.2, PlainImports handler.2 := by
  unfold handlers
  refine yields_then fun token => ?_
  extract_lets group
  refine yields_bind (P := fun found => ∀ handler ∈ found, PlainImports handler.2) ?_ ?_
  · refine yields_repeating ?_ (by simp)
    intro found earlier
    have grown : ∀ bound, Yields (do return some ((bound, ← suite inside) :: found)) fun next =>
        ∀ found ∈ next, ∀ handler ∈ found, PlainImports handler.2 := by
      intro bound
      refine yields_bind (suite_plain block) fun body plain => yields_pure ?_
      rintro _ ⟨rfl⟩
      exact List.forall_mem_cons.mpr ⟨plain, earlier⟩
    refine yields_then fun another => ?_
    split
    · refine yields_then fun starred => ?_
      dsimp only
      split
      · exact yields_failed
      · refine yields_then fun bare => ?_
        split
        · split
          · exact yields_fail
          · exact grown none
        · refine yields_then fun _ => yields_then fun named => ?_
          split
          · exact yields_then fun bound => grown bound
          · exact yields_then fun bound => grown bound
    · exact yields_pure (by simp)
  · intro found all
    exact yields_pure fun handler member => all handler (List.mem_reverse.mp member)

theorem attempt_plain : YieldsPlain (attempt inside) := by
  have empty : PlainImports [] := by simp [PlainImports, topLevel]
  unfold attempt
  refine yields_then fun _ => yields_bind (suite_plain block) fun body first => ?_
  refine yields_then fun closes => ?_
  split
  · refine yields_bind (suite_plain block) fun final last => yields_pure ?_
    exact plainImports_attempt.mpr ⟨first, by simp, empty, last⟩
  · refine yields_bind (handlers_plain block) fun found caught => ?_
    obtain ⟨group, handlers⟩ := found
    dsimp only
    split
    · exact yields_failed
    · refine yields_bind (orElse_plain block) fun orelse second => yields_then fun closes => ?_
      have whole : ∀ final, PlainImports final → YieldsPlain (pure
          (if group then .attemptGroup body handlers orelse final
            else .attempt body handlers orelse final)) := by
        intro final last
        refine yields_pure ?_
        split
        · exact plainImports_alone trivial trivial
        · exact plainImports_attempt.mpr ⟨first, caught, second, last⟩
      split
      · exact yields_bind (suite_plain block) whole
      · exact whole [] empty

theorem statement_plain : Yields (statement inside) PlainImports := by
  have alone : ∀ {p : Parser Stmt}, YieldsPlain p → Yields (do return [← p]) PlainImports :=
    fun plain => yields_bind plain fun _ holds => yields_pure holds
  unfold statement
  refine yields_then fun token => ?_
  split
  · exact alone (decorated_plain inside)
  · exact alone (decorated_plain inside)
  · exact alone (decorated_plain inside)
  · exact alone (conditional_plain block)
  · exact alone (forLoop_plain inside)
  · exact alone (whileLoop_plain inside)
  · exact alone (attempt_plain block)
  · exact alone (context_plain inside)
  · refine yields_then fun next => ?_
    split
    · exact yields_then fun _ => alone (forLoop_plain inside)
    · exact yields_then fun _ => alone (context_plain inside)
    · exact alone (decorated_plain inside)
  · refine yields_bind (yields_optional (choice_plain inside)) fun found plain => ?_
    cases found with
    | none => exact simpleStatements_plain inside.nested
    | some found => exact yields_pure (plain found rfl)
  · exact simpleStatements_plain inside.nested

theorem statements_plain : Yields (statements inside) PlainImports := by
  unfold statements
  refine yields_bind (P := fun found => ∀ statement ∈ found, PlainImports [statement]) ?_ ?_
  · refine yields_repeating ?_ (by simp)
    intro found earlier
    refine yields_then fun dedents => yields_then fun finishes => ?_
    split
    · exact yields_pure (by simp)
    · refine yields_bind (statement_plain block) fun own plain => yields_pure ?_
      rintro _ ⟨rfl⟩
      refine List.forall_mem_append.mpr ⟨?_, earlier⟩
      exact fun statement member =>
        plainImports_each.mp plain statement (List.mem_reverse.mp member)
  · intro found all
    refine yields_pure (plainImports_each.mpr ?_)
    exact fun statement member => all statement (List.mem_reverse.mp member)

end

theorem blockTo_plain (nested : Nested) (depth levels : Nat) :
    Yields (blockTo nested depth levels) PlainImports := by
  induction levels with
  | zero => exact yields_fail
  | succ levels ih => exact statements_plain ih

theorem file_plain (depth : Nat) : Yields (file depth) PlainImports :=
  yields_bind (blockTo_plain _ _ _) fun _ plain => yields_then fun _ => yields_pure plain

end Grammar

theorem parse_plain (parsed : parse? text = some body) : PlainImports body := by
  unfold parse? at parsed
  split at parsed
  · cases parsed
  · obtain ⟨tokens, split, given⟩ := Option.bind_eq_some_iff.mp parsed
    obtain ⟨⟨found, stop⟩, ran, rfl⟩ := Option.map_eq_some_iff.mp given
    exact Grammar.file_plain _ tokens 0 found stop ran

namespace Scope

def Plain (scope : Scope) : Prop := ∀ entry ∈ scope.imports, Undotted entry.1

variable {scope next : Scope}

theorem addImport_plain (plain : scope.Plain) (undotted : Undotted name) :
    (scope.addImport name target).Plain := by
  unfold Plain addImport
  unfold Plain at plain
  generalize scope.imports = imports at plain
  dsimp only
  induction imports with
  | nil => simpa [rebind] using undotted
  | cons entry rest ih =>
    obtain ⟨first, others⟩ := List.forall_mem_cons.mp plain
    unfold rebind
    split
    · exact List.forall_mem_cons.mpr ⟨first, others⟩
    · exact List.forall_mem_cons.mpr ⟨first, ih others⟩

theorem addImports_plain {add : Scope → ImportedName → Scope} {names : List ImportedName}
    (adds : ∀ imported ∈ names, ∀ scope : Scope, scope.Plain → (add scope imported).Plain)
    (plain : scope.Plain) : (names.foldl add scope).Plain := by
  induction names generalizing scope with
  | nil => exact plain
  | cons imported rest ih =>
    obtain ⟨first, others⟩ := List.forall_mem_cons.mp adds
    exact ih others (first scope plain)

theorem step_plain (plain : scope.Plain) (binds : PlainImport statement)
    (stepped : scope.step statement = .ok next) : next.Plain := by
  unfold step at stepped
  split at stepped
  · rename_i names
    cases stepped
    refine addImports_plain ?_ plain
    intro imported member scope plain
    cases bound : imported.localName with
    | none => exact addImport_plain plain (Text.undotted_firstName imported.name)
    | some name => exact addImport_plain plain (binds imported member name bound)
  · rename_i source names
    cases stepped
    refine addImports_plain ?_ plain
    exact fun imported member scope plain => addImport_plain plain (binds imported member)
  · cases stepped
    exact plain
  · cases stepped
    split
    · exact plain
    · exact plain
  · obtain ⟨constants, rfl⟩ := remember_constants stepped
    exact plain
  · obtain ⟨constants, rfl⟩ := remember_constants stepped
    exact plain
  · cases stepped
    exact plain

theorem ofModule_plain {home : String} (opened : ofModule home isPackage body = .ok scope)
    (plain : PlainImports body) : scope.Plain := by
  unfold ofModule at opened
  have start : (empty home isPackage).Plain := by simp [Plain, empty]
  generalize empty home isPackage = first at opened start
  unfold PlainImports at plain
  generalize topLevel body = statements at opened plain
  induction statements generalizing first with
  | nil =>
    cases opened
    exact start
  | cons statement rest ih =>
    obtain ⟨own, others⟩ := List.forall_mem_cons.mp plain
    rw [List.foldlM_cons] at opened
    obtain ⟨middle, stepped, later⟩ := bind_ok opened
    exact ih middle (step_plain start own stepped) later others

end Scope

end EndpointCatalog.Source
