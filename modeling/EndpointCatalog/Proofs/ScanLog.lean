import EndpointCatalog.Proofs.Scan

namespace EndpointCatalog.Discovery

open EndpointCatalog.Symbol (Table TypeDecl Method Marker)
open Text (codes)

variable {table : Table} {guide : Guide} {type : TypeDecl}

section

variable {α β : Type}

def inTurn (act : List String → α → β × List String) : List String → List α → List β × List String
  | log, [] => ([], log)
  | log, item :: rest =>
    let (value, log) := act log item
    let (values, log) := inTurn act log rest
    (value :: values, log)

theorem inTurn_appends {act : List String → α → β × List String} {view : α → β × List Event}
    (each : ∀ log item, act log item = ((view item).1, log ++ (view item).2.map Event.line))
    (log : List String) (items : List α) :
    inTurn act log items =
      (items.map fun item => (view item).1,
        log ++ (items.flatMap fun item => (view item).2).map Event.line) := by
  induction items generalizing log with
  | nil => simp [inTurn]
  | cons item rest ih => simp [inTurn, each, ih]

end

def noteMethod (table : Table) (guide : Guide) (type : TypeDecl) (log : List String)
    (method : Method) : Endpoint × List String :=
  let log := log ++ [(Event.foundMethod type.qualname method.name).line]
  match describeMethod table guide.known guide.verbs guide.defaultVerb method with
  | (endpoint, none) => (endpoint, log)
  | (endpoint, some e) => (endpoint, log ++ [(Event.unknownVerb e.marker method.name).line])

def noteController (table : Table) (guide : Guide) (log : List String) (type : TypeDecl) :
    Option (Controller × List Endpoint) × List String :=
  let log := log ++ [(Event.foundController type.qualname).line]
  match describeController table guide.known type with
  | .error e => (none, log ++ [(Event.skippedController type.qualname e.message).line])
  | .ok controller =>
    let (endpoints, log) :=
      inTurn (noteMethod table guide type) log (endpointMethods table guide.known type)
    (some (controller, endpoints), log)

def scanInto (table : Table) (guide : Guide) (log : List String) :
    Option Application × List String :=
  match guide.known.names.filter (fun name => !table.contains name) with
  | [] =>
    let (entries, log) :=
      inTurn (noteController table guide) log (controllers table guide.known.controllerBase)
    (some (entries.filterMap id), log)
  | missing => (none, log ++ [(Event.missing missing).line])

theorem noteMethod_appends (log : List String) (method : Method) :
    noteMethod table guide type log method =
      ((scanMethod table guide type method).1,
        log ++ (scanMethod table guide type method).2.map Event.line) := by
  unfold noteMethod scanMethod
  cases described : describeMethod table guide.known guide.verbs guide.defaultVerb method with
  | mk endpoint unknown => cases unknown <;> simp

theorem noteController_appends (log : List String) (type : TypeDecl) :
    noteController table guide log type =
      ((scanController table guide type).1,
        log ++ (scanController table guide type).2.map Event.line) := by
  unfold noteController scanController
  cases described : describeController table guide.known type with
  | error e => simp
  | ok controller =>
    dsimp only
    rw [inTurn_appends noteMethod_appends]
    simp [List.flatMap_map]

theorem scanInto_appends (log : List String) :
    scanInto table guide log =
      ((scanTable table guide).1, log ++ (scanTable table guide).2.map Event.line) := by
  unfold scanInto scanTable
  cases missing : guide.known.names.filter fun name => !table.contains name with
  | cons name names => rfl
  | nil =>
    dsimp only
    rw [inTurn_appends noteController_appends]
    simp [List.flatMap_map, List.filterMap_map]

-- What the log says about a method that is listed, with the endpoint it is listed as.
inductive MethodAccount (table : Table) (guide : Guide) (type : TypeDecl) (method : Method) :
    List String × Endpoint → Prop where
  | known (marked : table.findMarker method.markers guide.known.methodMarker = some marker)
      (found : verbOf table guide.verbs marker.typeName = .ok verb)
      (name : endpoint.name = codes method.name) (own : endpoint.verb = some (codes verb)) :
      MethodAccount table guide type method
        (["Found method " ++ type.qualname ++ "." ++ method.name], endpoint)
  | unknown (marked : table.findMarker method.markers guide.known.methodMarker = some marker)
      (verbless : ∀ verb, verbOf table guide.verbs marker.typeName ≠ .ok verb)
      (name : endpoint.name = codes method.name) (silent : endpoint.verb = none) :
      MethodAccount table guide type method
        (["Found method " ++ type.qualname ++ "." ++ method.name,
          "Unknown HTTP method marker " ++ table.resolve marker.typeName ++ " on " ++ method.name],
          endpoint)
  | routed (unmarked : table.findMarker method.markers guide.known.methodMarker = none)
      (routed : (table.findMarker method.markers guide.known.routeMarker).isSome = true)
      (name : endpoint.name = codes method.name)
      (standard : endpoint.verb =
        (guide.defaultVerb.filter (· ≠ "")).map fun verb => codes (Text.upper verb)) :
      MethodAccount table guide type method
        (["Found method " ++ type.qualname ++ "." ++ method.name], endpoint)

inductive TypeAccount (table : Table) (guide : Guide) (type : TypeDecl) :
    List String × Option (Controller × List Endpoint) → Prop where
  | skipped (unnamed : ¬ Named type.name) :
      TypeAccount table guide type
        (["Found controller " ++ type.qualname,
          "Skipped controller " ++ type.qualname ++ ": " ++
            (InvalidControllerName.mk type.name).message],
          none)
  | listed (named : Named type.name)
      (described : describeController table guide.known type = .ok controller)
      (methods : List.Forall₂ (MethodAccount table guide type)
        (routableMethods table guide.known type) accounts) :
      TypeAccount table guide type
        (("Found controller " ++ type.qualname) :: accounts.flatMap (·.1),
          some (controller, accounts.map (·.2)))

open Classical in
noncomputable def discoveredTypes (table : Table) (known : WellKnown) : List TypeDecl :=
  table.types.filter fun type =>
    type.qualname ≠ table.resolve known.controllerBase ∧
      table.Reaches type.qualname (table.resolve known.controllerBase)

open Classical in
theorem controllers_discovered (known : WellKnown) :
    controllers table known.controllerBase = discoveredTypes table known := by
  unfold controllers discoveredTypes
  apply List.filter_congr
  intro type member
  rw [← Bool.coe_iff_coe, decide_eq_true_iff,
    Table.inherits_reaches (Table.declared_of_mem member), ne_comm]

section

variable {known : WellKnown} {verbs : VerbTable} {method : Method} (standard : Option String)

theorem verbOf_error (refused : verbOf table verbs marker = .error e) :
    e.marker = table.resolve marker := by
  unfold verbOf at refused
  dsimp only at refused
  split at refused
  · cases refused
  · cases refused
    rfl

theorem describeMethod_known
    (marked : table.findMarker method.markers known.methodMarker = some marker)
    (found : verbOf table verbs marker.typeName = .ok verb) :
    (describeMethod table known verbs standard method).1.verb = some (codes verb) ∧
      (describeMethod table known verbs standard method).2 = none := by
  simp [describeMethod, marked, found]

theorem describeMethod_unknown
    (marked : table.findMarker method.markers known.methodMarker = some marker)
    (refused : verbOf table verbs marker.typeName = .error e) :
    (describeMethod table known verbs standard method).1.verb = none ∧
      (describeMethod table known verbs standard method).2 = some e := by
  simp [describeMethod, marked, refused]

theorem describeMethod_routed (verbs : VerbTable)
    (unmarked : table.findMarker method.markers known.methodMarker = none)
    (routed : (table.findMarker method.markers known.routeMarker).isSome = true) :
    (describeMethod table known verbs standard method).1.verb =
        ((standard.filter (· ≠ "")).map fun verb => codes (Text.upper verb)) ∧
      (describeMethod table known verbs standard method).2 = none := by
  obtain ⟨route, chosen⟩ := Option.isSome_iff_exists.mp routed
  cases standard with
  | none => simp [describeMethod, unmarked]
  | some verb =>
    by_cases empty : verb = "" <;> simp [describeMethod, unmarked, chosen, empty, Option.filter]

end

theorem scanMethod_lines (method : Method) :
    (scanMethod table guide type method).2.map Event.line =
      ("Found method " ++ type.qualname ++ "." ++ method.name) ::
        ((describeMethod table guide.known guide.verbs guide.defaultVerb method).2.map fun e =>
          "Unknown HTTP method marker " ++ e.marker ++ " on " ++ method.name).toList := by
  unfold scanMethod
  cases described : describeMethod table guide.known guide.verbs guide.defaultVerb method with
  | mk endpoint unknown => cases unknown <;> rfl

theorem scanMethod_account {method : Method} (listed : isEndpoint table guide.known method = true) :
    MethodAccount table guide type method
      ((scanMethod table guide type method).2.map Event.line,
        (scanMethod table guide type method).1) := by
  have name : (scanMethod table guide type method).1.name = codes method.name :=
    describeMethod_name _ _ _
  rw [scanMethod_lines]
  cases marked : table.findMarker method.markers guide.known.methodMarker with
  | some marker =>
    cases found : verbOf table guide.verbs marker.typeName with
    | ok verb =>
      obtain ⟨own, quiet⟩ := describeMethod_known guide.defaultVerb marked found
      rw [quiet]
      exact .known marked found name own
    | error e =>
      obtain ⟨silent, reported⟩ := describeMethod_unknown guide.defaultVerb marked found
      have verbless : ∀ verb, verbOf table guide.verbs marker.typeName ≠ .ok verb := by
        simp [found]
      rw [reported, Option.map_some, verbOf_error found]
      exact .unknown marked verbless name silent
  | none =>
    have routed : (table.findMarker method.markers guide.known.routeMarker).isSome = true := by
      simp only [isEndpoint, marked, Bool.and_eq_true, Option.isSome_none, Bool.or_false] at listed
      exact listed.2
    obtain ⟨verb, quiet⟩ := describeMethod_routed guide.defaultVerb guide.verbs marked routed
    rw [quiet]
    exact .routed marked routed name verb

theorem controllerName_error (refused : controllerName identifier = .error e) :
    e = ⟨identifier⟩ := by
  unfold controllerName at refused
  split at refused
  · split at refused <;> cases refused
    rfl
  · cases refused
    rfl

theorem describeController_error (refused : describeController table known type = .error e) :
    e = ⟨type.name⟩ := by
  unfold describeController at refused
  cases named : controllerName type.name with
  | error cause =>
    rw [named] at refused
    cases refused
    exact controllerName_error named
  | ok name =>
    rw [named] at refused
    cases refused

theorem foundController_line (qualname : String) :
    (Event.foundController qualname).line = "Found controller " ++ qualname := rfl

theorem skippedController_line (qualname reason : String) :
    (Event.skippedController qualname reason).line =
      "Skipped controller " ++ qualname ++ ": " ++ reason := rfl

theorem scanController_account (type : TypeDecl) :
    TypeAccount table guide type
      ((scanController table guide type).2.map Event.line, (scanController table guide type).1) := by
  have accepted : (∃ controller, describeController table guide.known type = .ok controller) ↔
      Named type.name := describeController_named
  cases described : describeController table guide.known type with
  | error e =>
    have unnamed : ¬ Named type.name := by
      rw [← accepted, described]
      rintro ⟨controller, never⟩
      cases never
    rw [scanController, described, describeController_error described]
    simp only [List.map_cons, List.map_nil, foundController_line, skippedController_line]
    exact .skipped unnamed
  | ok controller =>
    have named : Named type.name := accepted.mp ⟨controller, described⟩
    have methods : List.Forall₂ (MethodAccount table guide type)
        (routableMethods table guide.known type)
        ((endpointMethods table guide.known type).map fun method =>
          ((scanMethod table guide type method).2.map Event.line,
            (scanMethod table guide type method).1)) := by
      rw [← endpointMethods_routable]
      refine List.forall₂_map_right_iff.mpr (List.forall₂_same.mpr fun method member => ?_)
      exact scanMethod_account (List.of_mem_filter member)
    have account : TypeAccount table guide type _ := .listed named described methods
    rw [scanController, described]
    simpa only [List.flatMap_map, List.map_map, Function.comp_def, List.map_cons, List.map_flatMap,
      foundController_line] using account

def leads : List String :=
  ["Found controller ", "Skipped controller ", "Found method ", "Unknown HTTP method marker "]

theorem leads_apart : ∀ lead ∈ leads, ∀ word ∈ leads, lead.toList <+: word.toList → lead = word := by
  decide

def beginning (lead : String) (lines : List String) : Nat :=
  lines.countP fun line => lead.toList.isPrefixOf line.toList

theorem begins_lead (rest : String) (lead_known : lead ∈ leads) (word_known : word ∈ leads) :
    lead.toList.isPrefixOf (word ++ rest).toList = decide (lead = word) := by
  rw [← Bool.coe_iff_coe, List.isPrefixOf_iff_prefix, decide_eq_true_iff, String.toList_append]
  constructor
  · intro begins
    rcases List.prefix_or_prefix_of_prefix begins (List.prefix_append _ _) with inside | outside
    · exact leads_apart lead lead_known word word_known inside
    · exact (leads_apart word word_known lead lead_known outside).symm
  · rintro rfl
    exact List.prefix_append _ _

theorem beginning_append (lead : String) (first second : List String) :
    beginning lead (first ++ second) = beginning lead first + beginning lead second :=
  List.countP_append

theorem beginning_line (lead_known : lead ∈ leads) (word_known : word ∈ leads) :
    beginning lead ((word ++ rest) :: lines) =
      (if lead = word then 1 else 0) + beginning lead lines := by
  rw [beginning, List.countP_cons, begins_lead rest lead_known word_known, Nat.add_comm]
  by_cases same : lead = word <;> simp [same, beginning]

theorem methodAccount_counts (account : MethodAccount table guide type method entry) :
    beginning "Found method " entry.1 = 1 ∧ beginning "Found controller " entry.1 = 0 ∧
      beginning "Skipped controller " entry.1 = 0 := by
  have silent : ∀ lead : String, beginning lead [] = 0 := fun _ => rfl
  cases account <;> simp (disch := decide) [String.append_assoc, beginning_line, silent]

theorem methods_counts {methods : List Method}
    (account : List.Forall₂ (MethodAccount table guide type) methods accounts) :
    beginning "Found method " (accounts.flatMap (·.1)) = accounts.length ∧
      beginning "Found controller " (accounts.flatMap (·.1)) = 0 ∧
      beginning "Skipped controller " (accounts.flatMap (·.1)) = 0 := by
  induction account with
  | nil => exact ⟨rfl, rfl, rfl⟩
  | cons first rest ih =>
    obtain ⟨found, controller, skipped⟩ := methodAccount_counts first
    simp only [List.flatMap_cons, beginning_append, List.length_cons]
    omega

theorem typeAccount_counts (account : TypeAccount table guide type entry) :
    beginning "Found controller " entry.1 = 1 ∧
      entry.2.toList.length + beginning "Skipped controller " entry.1 = 1 ∧
      beginning "Found method " entry.1 = endpointCount entry.2.toList := by
  have silent : ∀ lead : String, beginning lead [] = 0 := fun _ => rfl
  cases account with
  | skipped unnamed =>
    simp (disch := decide) [String.append_assoc, beginning_line, silent, endpointCount]
  | listed named described methods =>
    obtain ⟨found, controller, skipped⟩ := methods_counts methods
    simp (disch := decide) [beginning_line, found, controller, skipped, endpointCount]

theorem types_counts {types : List TypeDecl}
    (account : List.Forall₂ (TypeAccount table guide) types accounts) :
    (accounts.filterMap (·.2)).length + beginning "Skipped controller " (accounts.flatMap (·.1)) =
        beginning "Found controller " (accounts.flatMap (·.1)) ∧
      endpointCount (accounts.filterMap (·.2)) =
        beginning "Found method " (accounts.flatMap (·.1)) := by
  induction account with
  | nil => exact ⟨rfl, rfl⟩
  | @cons type entry types rest first others ih =>
    obtain ⟨found, kept, methods⟩ := typeAccount_counts first
    simp only [List.flatMap_cons, beginning_append]
    have parts : ((entry :: rest).filterMap (·.2)) = entry.2.toList ++ rest.filterMap (·.2) := by
      cases listed : entry.2 <;> simp [listed]
    rw [parts, List.length_append, endpointCount, List.flatMap_append, List.length_append]
    simp only [endpointCount] at ih methods ⊢
    omega

-- The log names the marker that has no verb, or there is no such marker and no verb for methods
-- without one.
def Verbless (table : Table) (guide : Guide) (lines : List String) (method : Method) : Prop :=
  (∃ marker, table.findMarker method.markers guide.known.methodMarker = some marker ∧
    "Unknown HTTP method marker " ++ table.resolve marker.typeName ++ " on " ++ method.name ∈ lines) ∨
  (table.findMarker method.markers guide.known.methodMarker = none ∧
    (table.findMarker method.markers guide.known.routeMarker).isSome = true ∧
    ∀ verb, guide.defaultVerb = some verb → verb = "")

theorem methodAccount_verbless (account : MethodAccount table guide type method entry)
    (silent : entry.2.verb = none) :
    entry.2.name = method.name ∧ Verbless table guide entry.1 method := by
  cases account with
  | known marked found name own =>
    rw [own] at silent
    cases silent
  | unknown marked verbless name silent =>
    exact ⟨name, .inl ⟨_, marked, by simp⟩⟩
  | routed unmarked routed name standard =>
    refine ⟨name, .inr ⟨unmarked, routed, ?_⟩⟩
    intro verb given
    rw [standard, given, Option.map_eq_none_iff] at silent
    by_contra other
    simp [Option.filter, other] at silent

theorem verbless_lines (verbless : Verbless table guide lines method)
    (within : ∀ line ∈ lines, line ∈ log) : Verbless table guide log method :=
  verbless.imp (fun ⟨marker, marked, reported⟩ => ⟨marker, marked, within _ reported⟩) id

theorem account_member {α β : Type} {Account : α → β → Prop} {items : List α} {entry : β}
    {entries : List β} (account : List.Forall₂ Account items entries) (member : entry ∈ entries) :
    ∃ item ∈ items, Account item entry := by
  induction account with
  | nil => cases member
  | cons first rest ih =>
    rcases List.mem_cons.mp member with rfl | later
    · exact ⟨_, List.mem_cons_self, first⟩
    · obtain ⟨item, listed, own⟩ := ih later
      exact ⟨item, List.mem_cons_of_mem _ listed, own⟩

theorem typeAccount_verbless (account : TypeAccount table guide type (lines, some entry))
    (listed : endpoint ∈ entry.2) (silent : endpoint.verb = none) :
    ∃ method ∈ routableMethods table guide.known type,
      endpoint.name = method.name ∧ Verbless table guide lines method := by
  cases account with
  | listed named described methods =>
    obtain ⟨told, member, rfl⟩ := List.mem_map.mp listed
    obtain ⟨method, routable, own⟩ := account_member methods member
    obtain ⟨name, verbless⟩ := methodAccount_verbless own silent
    refine ⟨method, routable, name, verbless_lines verbless ?_⟩
    intro line present
    exact List.mem_cons_of_mem _ (List.mem_flatMap.mpr ⟨told, member, present⟩)

theorem scanTable_accounts (scanned : (scanTable table guide).1 = some application) :
    ∃ accounts,
      List.Forall₂ (TypeAccount table guide) (discoveredTypes table guide.known) accounts ∧
      (scanTable table guide).2.map Event.line = accounts.flatMap (·.1) ∧
      application = accounts.filterMap (·.2) := by
  refine ⟨(discoveredTypes table guide.known).map fun type =>
    ((scanController table guide type).2.map Event.line, (scanController table guide type).1),
    ?_, ?_⟩
  · refine List.forall₂_map_right_iff.mpr (List.forall₂_same.mpr fun type _ => ?_)
    exact scanController_account type
  · rw [← controllers_discovered]
    unfold scanTable at scanned ⊢
    cases missing : guide.known.names.filter fun name => !table.contains name with
    | cons name names =>
      rw [missing] at scanned
      cases scanned
    | nil =>
      rw [missing] at scanned
      obtain rfl := Option.some.inj scanned
      simp [List.filterMap_map, List.flatMap_map, List.map_flatMap]

theorem scan_recounted (table : Table) (guide : Guide) (log : List String) :
    ∃ lines, scanInto table guide log = ((scanTable table guide).1, log ++ lines) ∧
      ∀ application, (scanTable table guide).1 = some application →
        (∃ accounts,
          List.Forall₂ (TypeAccount table guide) (discoveredTypes table guide.known) accounts ∧
          lines = accounts.flatMap (·.1) ∧ application = accounts.filterMap (·.2)) ∧
        application.length + beginning "Skipped controller " lines =
          beginning "Found controller " lines ∧
        endpointCount application = beginning "Found method " lines ∧
        ∀ entry ∈ application, ∀ endpoint ∈ entry.2, endpoint.verb = none →
          ∃ type ∈ discoveredTypes table guide.known,
            ∃ method ∈ routableMethods table guide.known type,
              endpoint.name = method.name ∧ Verbless table guide lines method := by
  refine ⟨_, scanInto_appends log, ?_⟩
  intro application scanned
  obtain ⟨accounts, told, lines, rfl⟩ := scanTable_accounts scanned
  rw [lines]
  obtain ⟨controllers, methods⟩ := types_counts told
  refine ⟨⟨accounts, told, rfl, rfl⟩, controllers, methods, ?_⟩
  intro entry kept endpoint listed silent
  obtain ⟨⟨own, kept⟩, member, rfl⟩ := List.mem_filterMap.mp kept
  obtain ⟨type, discovered, account⟩ := account_member told member
  obtain ⟨method, routable, name, verbless⟩ := typeAccount_verbless account listed silent
  refine ⟨type, discovered, method, routable, name, verbless_lines verbless ?_⟩
  intro line present
  exact List.mem_flatMap.mpr ⟨_, member, present⟩

def loggedTable : Table :=
  { Table.empty with
    types :=
      [Table.bareType "mvc.Base" [], Table.bareType "mvc.Route" [], Table.bareType "mvc.Verb" [],
        { Table.bareType "app.UsersController" ["mvc.Base"] with
          methods := [⟨"list", [routeUse], 0, false⟩, ⟨"find", [⟨"mvc.Verb", [], [], 0⟩], 0, false⟩] },
        Table.bareType "app.Controller" ["mvc.Base"]]
    distinct := by decide }

theorem loggedTable_recounted :
    (scanTable loggedTable sampleGuide).1 =
      some [(⟨"Users", none⟩, [⟨"list", none, none, none⟩, ⟨"find", none, none, none⟩])] ∧
    ∃ lines, scanInto loggedTable sampleGuide ["Skipped unparsable file a.py"] =
        ((scanTable loggedTable sampleGuide).1, "Skipped unparsable file a.py" :: lines) ∧
      1 + beginning "Skipped controller " lines = beginning "Found controller " lines ∧
      2 = beginning "Found method " lines := by
  have scanned : (scanTable loggedTable sampleGuide).1 =
      some [(⟨"Users", none⟩, [⟨"list", none, none, none⟩, ⟨"find", none, none, none⟩])] := rfl
  obtain ⟨lines, appended, told⟩ :=
    scan_recounted loggedTable sampleGuide ["Skipped unparsable file a.py"]
  obtain ⟨-, controllers, methods, -⟩ := told _ scanned
  exact ⟨scanned, lines, appended, controllers, methods⟩

end EndpointCatalog.Discovery
