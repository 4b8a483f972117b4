import EndpointCatalog.Command.Run
import EndpointCatalog.Proofs.GeneratedItems
import EndpointCatalog.Proofs.CollectionFiles
import Mathlib

namespace EndpointCatalog.Discovery

theorem describeMethod_bodiless {table : Symbol.Table} {method : Symbol.Method} :
    (describeMethod table known verbs preset method).1.body = none := by
  unfold describeMethod
  cases table.findMarker method.markers known.methodMarker with
  | none =>
    dsimp only
    split
    · split <;> rfl
    · rfl
  | some marker =>
    dsimp only
    cases verbOf table verbs marker.typeName <;> rfl

end EndpointCatalog.Discovery

namespace EndpointCatalog.Command

open Collection (Address RoutePath Trimmed SaysController SaysMethod SaysApplication assemble bodies
  entriesAt exporterBound itemsOf slash)
open Discovery (Application Controller Endpoint Scan scanRoots)
open Files (Path Tree FileError)
open Json (Readable readWithin read digitLimit)
open Text (Code Codes codes Unpaired)

-- The verb and both parts of the path may be absent.
structure Listing where
  controller : Codes
  method : Codes
  verb : Option Codes
  outer : Option Codes
  own : Option Codes
  path : Codes

def Listing.texts (listing : Listing) : List Codes :=
  [listing.controller, listing.method] ++ listing.verb.toList ++ listing.outer.toList ++
    listing.own.toList

structure RowSays (row : Json) (listing : Listing) : Prop where
  controller : row.find? "controller" = some (.str listing.controller)
  method : row.find? "method" = some (.str listing.method)
  verb : row.find? "http_method" = some (Collection.optionalText listing.verb)
  outer : row.find? "route_prefix" = some (Collection.optionalText listing.outer)
  own : row.find? "route" = some (Collection.optionalText listing.own)
  path : RoutePath listing.outer listing.own listing.path

-- The verb stands in eight columns, a dash for none, and the path in forty.
def LineSays (line : Codes) (listing : Listing) : Prop :=
  line = padded 8 ((listing.verb.filter (· ≠ [])).getD "-") ++ codes " /" ++ padded 40 listing.path ++
    codes " " ++ listing.controller ++ codes "." ++ listing.method

-- An item of a collection, with the group that holds it.
structure ItemSays (base : Codes) (place : Json × Json) (listing : Listing) : Prop where
  group : place.1.find? "name" = some (.str listing.controller)
  name : place.2.find? "name" = some (.str listing.method)
  request : ∃ request, place.2.find? "request" = some request ∧
    request.find? "method" = listing.verb.map Json.str ∧
    ∃ bare, Trimmed base bare ∧ request.find? "url" = some (.str (bare ++ codes "/" ++ listing.path))

def placesOf (document : Json) : List (Json × Json) :=
  (entriesAt "item" document).flatMap fun group => (entriesAt "item" group).map (Prod.mk group)

def Row.listing (row : Row) : Listing :=
  ⟨row.controller.name, row.endpoint.name, row.endpoint.verb, row.controller.routePrefix,
    row.endpoint.route, row.path⟩

variable {application : Application} {base : Codes} {row : Row} {document : Json}

theorem document_tells (row : Row) : RowSays row.document row.listing where
  controller := rfl
  method := rfl
  verb := rfl
  outer := rfl
  own := rfl
  path := Collection.routePath_iff.mpr rfl

theorem line_tells (row : Row) : LineSays row.line row.listing := by
  have verb : row.verbText = (row.endpoint.verb.filter (· ≠ [])).getD "-" := by
    unfold Row.verbText
    cases row.endpoint.verb with
    | none => rfl
    | some verb => by_cases empty : verb = [] <;> simp [empty, Option.filter]
  rw [LineSays, Row.line, verb]
  rfl

theorem row_readable (unpaired : ∀ text ∈ row.listing.texts, Unpaired text) :
    Readable (some digitLimit) .ascii row.document := by
  have optional (text : Option Codes) (parts : ∀ part ∈ text.toList, Unpaired part) :
      Readable (some digitLimit) .ascii (Collection.optionalText text) := by
    cases text with
    | none => exact .null
    | some text => exact .str fun _ => parts text (.head _)
  have apart : (["controller", "method", "http_method", "route_prefix", "route"].map codes).Nodup := by
    decide
  have named : ∀ name ∈ ["controller", "method", "http_method", "route_prefix", "route"].map codes,
      Json.Kept .ascii name := by
    simp only [List.forall_mem_map]
    exact fun name _ _ => (Json.unhalved_codes name).unpaired
  simp only [Listing.texts, List.forall_mem_append, List.forall_mem_cons] at unpaired
  obtain ⟨⟨⟨⟨controller, method, _⟩, verb⟩, outer⟩, own⟩ := unpaired
  refine .obj apart (fun member listed => named _ (List.mem_map_of_mem listed)) ?_
  simp only [List.forall_mem_cons]
  exact ⟨.str fun _ => controller, .str fun _ => method, optional _ verb, optional _ outer,
    optional _ own, by simp⟩

theorem item_tells {controller : Controller} {endpoint : Endpoint} {group item : Json}
    (named : group.find? "name" = some (.str controller.name))
    (tells : SaysMethod base controller endpoint item) :
    ItemSays base (group, item) (Row.mk controller endpoint).listing := by
  obtain ⟨name, request, held, ⟨url, ⟨bare, path, trimmed, spelled, rfl⟩, shown⟩, method, -⟩ := tells
  refine ⟨named, name, request, held, method, bare, trimmed, ?_⟩
  rw [shown, Collection.routePath_iff.mp spelled]
  simp [Row.listing, Row.path, codes, slash]

theorem group_tells {entry : Controller × List Endpoint} {group : Json}
    (tells : SaysController base entry group) :
    List.Forall₂ (ItemSays base) ((entriesAt "item" group).map (Prod.mk group))
      ((entry.2.map (Row.mk entry.1)).map Row.listing) := by
  obtain ⟨named, items, held, each⟩ := tells
  rw [entriesAt, held, List.map_map, List.forall₂_map_left_iff, List.forall₂_map_right_iff]
  exact each.flip.imp fun item endpoint told => item_tells named told

theorem places_tell (tells : SaysApplication base application document) :
    List.Forall₂ (ItemSays base) (placesOf document) ((rows application).map Row.listing) := by
  obtain ⟨groups, held, each⟩ := tells
  have listed : entriesAt "item" document = groups := by rw [entriesAt, held]
  rw [placesOf, listed, rows, List.map_flatMap]
  clear held listed
  induction each with
  | nil => exact .nil
  | cons first _ ih =>
    rw [List.flatMap_cons, List.flatMap_cons]
    exact List.rel_append (group_tells first) ih

theorem scanned_bodiless {tree : Tree} {roots : List Path} {guide : Discovery.Guide} {scan : Scan}
    (scanned : scanRoots tree roots guide = .ok scan)
    (described : scan.application = some application) : bodies application = [] := by
  unfold scanRoots at scanned
  split at scanned
  · cases scanned
  · cases scanned
    refine List.flatMap_eq_nil_iff.mpr fun entry listed => List.filterMap_eq_nil_iff.mpr ?_
    intro endpoint member
    obtain ⟨method, rfl⟩ := Collection.scanned_described described listed member
    exact Discovery.describeMethod_bodiless

theorem bodiless_assembled {id : Codes} {exporterId : Nat} (none : bodies application = []) :
    assemble application base id exporterId =
      .ok (Collection.ofApplication application base id exporterId) := by
  simp only [assemble, none, List.findSome?_nil]

-- The lines that are printed are those in front of the first that has no encoding.
theorem printable_lines (lines : List Codes) :
    (printable lines).1.map codes = lines.takeWhile (fun line => (Text.stringOf line).isOk) ∧
      ((printable lines).2 = none ↔ ∀ line ∈ lines, (Text.stringOf line).isOk = true) := by
  induction lines with
  | nil => simp [printable]
  | cons line lines ih =>
    rw [printable]
    cases shown : Text.stringOf line with
    | error e => simp [shown, Except.isOk, Except.toBool]
    | ok text => simp [Except.isOk, Except.toBool, ih, Text.stringOf_ok.mp shown]

theorem ofLines_output (tree : Tree) (status : Nat) (lines : List Codes) :
    (Outcome.ofLines tree status lines).output = (printable lines).1 := by
  unfold Outcome.ofLines
  rcases printable lines with ⟨shown, _ | e⟩ <;> rfl

-- Nothing is refused here: the log or the collection cannot be named, or the collection has no
-- encoding.
inductive Unwritable (content : Codes) : Failure → Prop where
  | log (e : FileError) (unnamed : e.cause = .nullByte) : Unwritable content (.log (.file e))
  | text (unencoded : Text.encode content = .error e) :
      Unwritable content (.collection (.file (.encoding e)))
  | path (e : FileError) (unnamed : e.cause = .nullByte) :
      Unwritable content (.collection (.file (.file e)))

-- An error that is reported counts as delivered, a failure only when it is one of these.
def Delivers (outcome : Outcome) (path : Path) (content : Codes) : Prop :=
  (outcome.status = 0 ∧ outcome.failure = none ∧
    ∃ bytes, Text.encode content = .ok bytes ∧ outcome.tree.read path = .ok bytes) ∨
  (outcome.status = 1 ∧ outcome.failure = none ∧ ∃ e : FileError,
    "Failed to write " ++ path.text ++ ": " ++ e.message ∈ outcome.complaints) ∨
  (outcome.status = 1 ∧ ∃ failure, outcome.failure = some failure ∧ Unwritable content failure)

variable {world : Surroundings} {sources : List Path} {settings : Settings} {scan : Scan}

theorem unnamed_cause {e : FileError} (named : (Files.WriteError.file e).ofSystem? = none) :
    e.cause = .nullByte := by
  simpa [Files.WriteError.ofSystem?, Files.Cause.ofSystem] using named

theorem deliver_delivers (described : scan.application = some application)
    (none : bodies application = [])
    (shown : (Collection.ofApplication application settings.baseUrl world.id world.exporterId).text =
      .ok content) :
    Delivers (world.deliver settings scan logged opening complaints) settings.output content := by
  have written := Tree.write_written logged settings.output content
  simp only [Surroundings.deliver, described,
    Collection.generate_assembled (bodiless_assembled none), Collection.write_text shown]
  generalize (logged.write settings.output content).1 = after at written
  generalize (logged.write settings.output content).2 = failure at written
  cases written with
  | done encoded replaces => exact .inl ⟨rfl, rfl, _, encoded, replaces.read⟩
  | torn unencoded replaces => exact .inr (.inr ⟨rfl, _, rfl, .text unencoded⟩)
  | @refused _ e widens smooth =>
    simp only [Option.map_some]
    cases asked : Collection.WriteError.ofSystem? (.file (.file e)) with
    | none => exact .inr (.inr ⟨rfl, _, rfl, .path e (unnamed_cause asked)⟩)
    | some refused => exact .inr (.inl ⟨rfl, rfl, refused, by simp⟩)

theorem generate_delivers (scanned : scanRoots world.tree sources settings.guide = .ok scan)
    (described : scan.application = some application)
    (shown : (Collection.ofApplication application settings.baseUrl world.id world.exporterId).text =
      .ok content) : Delivers (world.generate sources settings) settings.output content := by
  have none := scanned_bodiless scanned described
  have logging := Tree.write_written world.tree settings.logFile
    (codes (Discovery.logText scan.lines))
  unfold Surroundings.generate
  simp only [scanned, Discovery.writeLog]
  cases made : world.tree.write settings.logFile (codes (Discovery.logText scan.lines)) with
  | mk logged failure =>
    rw [made] at logging
    cases failure with
    | none => exact deliver_delivers described none shown
    | some e =>
      cases asked : e.ofSystem? with
      | some refused =>
        simp only [asked]
        exact deliver_delivers described none shown
      | none =>
        simp only [asked]
        cases logging with
        | torn unencoded replaces =>
          rw [Text.encode, Text.stringOf_codes] at unencoded
          cases unencoded
        | refused widens smooth => exact .inr (.inr ⟨rfl, _, rfl, .log _ (unnamed_cause asked)⟩)

theorem trimSlashes_more (base : Codes) (count : Nat) :
    Collection.trimSlashes (base ++ List.replicate count slash) = Collection.trimSlashes base := by
  obtain ⟨⟨own, parts⟩, ending⟩ := Collection.trimSlashes_trimmed base
  refine (Collection.trimmed_iff.mp ⟨⟨own + count, ?_⟩, ending⟩).symm
  rw [List.replicate_add, ← List.append_assoc, ← parts]

theorem generate_slashes (base : Codes) (count : Nat) :
    world.generate sources { settings with baseUrl := base ++ List.replicate count slash } =
      world.generate sources { settings with baseUrl := base } := by
  have items (controller : Controller) (endpoint : Endpoint) :
      Collection.Item.ofEndpoint (base ++ List.replicate count slash) controller endpoint =
        Collection.Item.ofEndpoint base controller endpoint := by
    rw [Collection.Item.ofEndpoint, Collection.buildUrl, trimSlashes_more]
    rfl
  have same (application : Application) :
      assemble application (base ++ List.replicate count slash) world.id world.exporterId =
        assemble application base world.id world.exporterId := by
    simp only [assemble, Collection.ofApplication, items]
  unfold Surroundings.generate Surroundings.deliver Collection.generate
  simp only [same]
  rfl

theorem rows_told : List.Forall₂ RowSays ((rows application).map Row.document)
    ((rows application).map Row.listing) := by
  rw [List.forall₂_map_left_iff, List.forall₂_map_right_iff, List.forall₂_same]
  exact fun row _ => document_tells row

theorem lines_told : List.Forall₂ LineSays ((rows application).map Row.line)
    ((rows application).map Row.listing) := by
  rw [List.forall₂_map_left_iff, List.forall₂_map_right_iff, List.forall₂_same]
  exact fun row _ => line_tells row

theorem rows_readable
    (unpaired : ∀ listing ∈ (rows application).map Row.listing, ∀ text ∈ listing.texts,
      Unpaired text) :
    Readable (some digitLimit) .ascii (rowsDocument (rows application)) := by
  refine .arr ?_
  rw [List.forall_mem_map] at unpaired ⊢
  exact fun row member => row_readable (unpaired row member)

theorem endpoints_document (scanned : scanRoots world.tree sources settings.guide = .ok scan)
    (described : scan.application = some application) :
    ∃ text, (world.endpoints sources settings "json").output = [text] ∧
      codes text = (rowsDocument (rows application)).spell .ascii .indented 0 := by
  obtain ⟨text, spelled⟩ := Json.unhalved_string.mp
    (Json.spell_unhalved .indented (rowsDocument (rows application)) 0)
  refine ⟨text, ?_, spelled.symm⟩
  simp [Surroundings.endpoints, scanned, described, ofLines_output, spelled, printable]

theorem endpoints_table (scanned : scanRoots world.tree sources settings.guide = .ok scan)
    (described : scan.application = some application) :
    (world.endpoints sources settings "table").output.map codes =
      ((rows application).map Row.line ++ [codes s!"{(rows application).length} endpoints"]).takeWhile
        fun line => (Text.stringOf line).isOk := by
  simp [Surroundings.endpoints, scanned, described, ofLines_output, printable_lines, rowLines]

theorem generate_tells (scanned : scanRoots world.tree sources settings.guide = .ok scan)
    (described : scan.application = some application) (below : world.exporterId < exporterBound) :
    ∃ content document, Delivers (world.generate sources settings) settings.output content ∧
      read content = .ok document ∧ List.Forall₂ (ItemSays settings.baseUrl) (placesOf document)
        ((rows application).map Row.listing) := by
  have shown := Collection.ofApplication_shows application settings.baseUrl world.id world.exporterId
  have typed := Collection.ofApplication_typed application settings.baseUrl world.id world.exporterId
  have within := Collection.exporter_within below
  refine ⟨_, _, generate_delivers scanned described (Collection.text_limited typed shown within),
    Collection.whole_read typed shown within, ?_⟩
  refine places_tell (Collection.saysApplication_made ?_ _)
  rw [scanned_bodiless scanned described]
  exact List.forall_mem_nil _

-- A module whose one class is the base of controllers and every marker, and a controller below it.
def shopWorld : Surroundings where
  tree := ⟨.directory [("a.py", .file ("class HttpGet: pass\n" ++
    "class BController(HttpGet):\n @HttpGet('x/')\n def f(): pass\n").toUTF8.toList)], []⟩
  reply := fun _ => .unreachable "down"
  id := "c"
  exporterId := 5

def shopSources : List Path := [⟨.relative, []⟩]

def shopSettings : Settings :=
  { controllerBase := "a.HttpGet", routeMarker := "a.HttpGet", methodMarker := "a.HttpGet" }

def shopTypes : List Symbol.TypeDecl :=
  [⟨"a.HttpGet", "HttpGet", "a", [], [], [], none, some ⟨.relative, ["a.py"]⟩, 1⟩,
    ⟨"a.BController", "BController", "a", ["a.HttpGet"], [],
      [⟨"f", [⟨"a.HttpGet", [.value (.atom (.str "x/"))], [], 3⟩], 4, false⟩], none,
      some ⟨.relative, ["a.py"]⟩, 2⟩]

def shopTable : Symbol.Table :=
  { Symbol.Table.empty with types := shopTypes, distinct := by decide }

set_option maxRecDepth 8000 in
theorem shop_taken : Symbol.Table.empty.takeRoots shopWorld.tree shopSources = (shopTable, none) := by
  unfold shopWorld shopSources shopTable shopTypes
  cbv

def shopApplication : Application := [(⟨"B", none⟩, [⟨"f", some "GET", some "x/", none⟩])]

theorem shop_scan : ∃ scan, scanRoots shopWorld.tree shopSources shopSettings.guide = .ok scan ∧
    scan.application = some shopApplication := by
  unfold scanRoots
  rw [shop_taken]
  exact ⟨_, rfl, rfl⟩

end EndpointCatalog.Command
