import EndpointCatalog.Proofs.GeneratedCollections
import EndpointCatalog.Proofs.ReadDocuments
import EndpointCatalog.Proofs.RequestAddresses

namespace EndpointCatalog.Collection

open Discovery (Application Controller Endpoint endpointCount)
open Json (Readable Floatless ofFields readWithin read digitLimit digitCount)
open Text (Codes codes)

variable {application : Application} {base id : Codes} {exporterId : Nat}
  {controller : Controller} {endpoint : Endpoint} {document : Json}

-- Nothing is kept of no body.
inductive SaysBody : Option Json → Option Json → Prop where
  | none : SaysBody none none
  | some {value body : Json} {raw : Codes} (held : body.find? "raw" = some (.str raw))
      (back : read raw = .ok value) : SaysBody (some value) (some body)

structure SaysRequest (base : Codes) (controller : Controller) (endpoint : Endpoint)
    (request : Json) : Prop where
  url : ∃ url, Address base controller.routePrefix endpoint.route url ∧
    request.find? "url" = some (.str url)
  method : request.find? "method" = endpoint.verb.map Json.str
  body : SaysBody endpoint.body (request.find? "body")

structure SaysMethod (base : Codes) (controller : Controller) (endpoint : Endpoint)
    (item : Json) : Prop where
  name : item.find? "name" = some (.str endpoint.name)
  request : ∃ request, item.find? "request" = some request ∧
    SaysRequest base controller endpoint request

structure SaysController (base : Codes) (entry : Controller × List Endpoint) (group : Json) :
    Prop where
  name : group.find? "name" = some (.str entry.1.name)
  items : ∃ items, group.find? "item" = some (.arr items) ∧
    List.Forall₂ (SaysMethod base entry.1) entry.2 items

def SaysApplication (base : Codes) (application : Application) (document : Json) : Prop :=
  ∃ groups, document.find? "item" = some (.arr groups) ∧
    List.Forall₂ (SaysController base) application groups

def entriesAt (name : Codes) (document : Json) : List Json :=
  match document.find? name with
  | some (.arr entries) => entries
  | _ => []

def itemsOf (document : Json) : List Json :=
  (entriesAt (codes "item") document).flatMap (entriesAt (codes "item"))

-- The numbers may be too long to be written.
def Sayable (value : Json) : Prop := ∃ said : String, readWithin none said = .ok value

def PlainBodies (application : Application) : Prop :=
  ∀ body ∈ bodies application, Sayable body ∧ Floatless body

def Oversized (application : Application) : Prop :=
  ∃ body ∈ bodies application, ∃ n ∈ body.wholes, digitLimit < digitCount n

theorem exceeds_digits (n : Int) :
    Json.exceeds (some digitLimit) (digitCount n) = true ↔ digitLimit < digitCount n := by
  simp [Json.exceeds]

theorem assemble_fails :
    (∃ e, assemble application base id exporterId = .error e) ↔ Oversized application := by
  unfold assemble Oversized
  simp only [← exceeds_digits]
  cases found : (bodies application).findSome? (Json.oversized? (some digitLimit)) with
  | none =>
    have within := List.findSome?_eq_none_iff.mp found
    simp only [Json.oversized_none] at within
    constructor
    · rintro ⟨e, failed⟩
      cases failed
    · rintro ⟨body, member, n, held, long⟩
      rw [within body member n held] at long
      cases long
  | some e =>
    obtain ⟨body, member, large⟩ := List.exists_of_findSome?_eq_some found
    refine ⟨fun _ => ?_, fun _ => ⟨e, rfl⟩⟩
    obtain ⟨count, counted, rfl⟩ := Option.map_eq_some_iff.mp large
    obtain ⟨n, held, rfl⟩ := List.mem_map.mp (List.mem_of_find?_eq_some counted)
    exact ⟨body, member, n, held, List.find?_some counted⟩

theorem assemble_small (small : ¬ Oversized application) :
    assemble application base id exporterId = .ok (ofApplication application base id exporterId) := by
  cases assembled : assemble application base id exporterId with
  | error e => exact absurd (assemble_fails.mp ⟨e, assembled⟩) small
  | ok collection => rw [assemble_same assembled]

theorem bodies_readable (plain : PlainBodies application) (small : ¬ Oversized application) :
    ∀ body ∈ bodies application, Readable (some digitLimit) .ascii body := by
  intro body member
  obtain ⟨⟨said, back⟩, floatless⟩ := plain body member
  refine (Json.readWithin_comes back floatless).limited fun n held => ?_
  rw [← Bool.not_eq_true, exceeds_digits]
  exact fun long => small ⟨body, member, n, held, long⟩

theorem saysRequest_made (plain : ∀ body ∈ endpoint.body, Readable (some digitLimit) .ascii body) :
    SaysRequest base controller endpoint
      (ofFields (Item.ofEndpoint base controller endpoint).request.fields) := by
  obtain ⟨name, verb, route, body⟩ := endpoint
  refine ⟨⟨_, address_iff.mpr rfl, rfl⟩, ?_, ?_⟩
  · cases verb <;> cases body <;> rfl
  · cases body with
    | none => cases verb <;> exact .none
    | some value =>
      obtain ⟨body, found, raw⟩ : ∃ body,
          (ofFields (Item.ofEndpoint base controller ⟨name, verb, route, some value⟩).request.fields).find?
            "body" = some body ∧ body.find? "raw" = some (.str (value.spell .ascii .line 0)) := by
        cases verb <;> exact ⟨_, rfl, rfl⟩
      rw [found]
      exact .some raw ((plain value rfl).readWithin .line)

theorem saysMethod_made (plain : ∀ body ∈ endpoint.body, Readable (some digitLimit) .ascii body) :
    SaysMethod base controller endpoint (itemDocument base controller endpoint) :=
  ⟨rfl, _, rfl, saysRequest_made plain⟩

theorem saysController_made {entry : Controller × List Endpoint}
    (plain : ∀ endpoint ∈ entry.2, ∀ body ∈ endpoint.body, Readable (some digitLimit) .ascii body) :
    SaysController base entry (ofFields (groupFields base entry)) := by
  refine ⟨rfl, _, rfl, ?_⟩
  rw [List.forall₂_map_right_iff, List.forall₂_same]
  exact fun endpoint member => saysMethod_made (plain endpoint member)

theorem saysApplication_made
    (readable : ∀ body ∈ bodies application, Readable (some digitLimit) .ascii body)
    (collection : Collection) :
    SaysApplication base application
      (collection.whole (application.map fun entry => ofFields (groupFields base entry))) := by
  refine ⟨_, rfl, ?_⟩
  rw [List.forall₂_map_right_iff, List.forall₂_same]
  refine fun entry member => saysController_made fun endpoint listed body held => ?_
  refine readable body (List.mem_flatMap.mpr ⟨entry, member, ?_⟩)
  exact List.mem_filterMap.mpr ⟨endpoint, listed, held⟩

theorem saysController_count {entry : Controller × List Endpoint} {group : Json}
    (tells : SaysController base entry group) : (entriesAt (codes "item") group).length = entry.2.length := by
  obtain ⟨items, held, each⟩ := tells.items
  rw [entriesAt, held]
  exact each.length_eq.symm

theorem saysApplication_count (tells : SaysApplication base application document) :
    (itemsOf document).length = endpointCount application := by
  obtain ⟨groups, held, each⟩ := tells
  have listed : entriesAt "item" document = groups := by rw [entriesAt, held]
  rw [itemsOf, listed, endpointCount]
  clear held listed
  induction each with
  | nil => rfl
  | cons first _ ih =>
    rw [List.flatMap_cons, List.flatMap_cons, List.length_append, List.length_append, ih,
      saysController_count first]

-- What the text of the collection of an application is read back as.
def Reads (application : Application) (base id : Codes) (exporterId : Nat) (document : Json) : Prop :=
  ∃ collection content, assemble application base id exporterId = .ok collection ∧
    collection.text = .ok content ∧ read content = .ok document

theorem reads_generated (below : exporterId < exporterBound) :
    Reads application base id exporterId document ↔
      ¬ Oversized application ∧
        document = (ofApplication application base id exporterId).whole
          (application.map fun entry => ofFields (groupFields base entry)) := by
  have typed := ofApplication_typed application base id exporterId
  have shown := ofApplication_shows application base id exporterId
  have within := exporter_within below
  have text := text_limited typed shown within
  have back : read _ = _ := whole_read typed shown within
  constructor
  · rintro ⟨collection, content, assembled, written, reads⟩
    refine ⟨fun large => ?_, ?_⟩
    · obtain ⟨e, failed⟩ := assemble_fails.mpr large
      rw [failed] at assembled
      cases assembled
    · rw [assemble_same assembled] at written
      rw [← Except.ok.inj (text.symm.trans written), back] at reads
      exact (Except.ok.inj reads).symm
  · rintro ⟨small, rfl⟩
    exact ⟨_, _, assemble_small small, text, back⟩

-- Documents that differ in the id and the exporter number of a collection at most.
structure SameButMarks (document rerun : Json) : Prop where
  nodes : document.find? "item" = rerun.find? "item"
  named : document.members.map Prod.fst = rerun.members.map Prod.fst
  others : ∀ name, name ≠ codes "info" → document.find? name = rerun.find? name
  info : ∃ info reinfo, document.find? "info" = some info ∧ rerun.find? "info" = some reinfo ∧
    info.members.map Prod.fst = reinfo.members.map Prod.fst ∧
    ∀ name, name ≠ codes "_postman_id" → name ≠ codes "_exporter_id" →
      info.find? name = reinfo.find? name

def Marked (document : Json) (id : Codes) (exporterId : Nat) : Prop :=
  ∃ info, document.find? "info" = some info ∧ info.find? "_postman_id" = some (.str id) ∧
    info.find? "_exporter_id" = some (.int exporterId)

theorem whole_marked (documents : List Json) :
    Marked ((ofApplication application base id exporterId).whole documents) id exporterId :=
  ⟨_, rfl, rfl, rfl⟩

theorem whole_sameButMarks (other : Codes) (another : Nat) (documents : List Json) :
    SameButMarks ((ofApplication application base id exporterId).whole documents)
      ((ofApplication application base other another).whole documents) := by
  refine ⟨rfl, rfl, fun name apart => ?_, _, _, rfl, rfl, rfl, fun name unlabelled unnumbered => ?_⟩
  · simp [whole, Json.find?, Json.members, Ne.symm apart]
  · simp only [ofFields, Json.find?, Json.members, Info.fields, ofApplication, Json.isNull,
      List.filter_cons, List.find?_cons, decide_eq_false (Ne.symm unlabelled),
      decide_eq_false (Ne.symm unnumbered), Bool.not_false, if_true, List.filter_nil,
      List.find?_nil]

def quotingBody : Json := .obj [("a\"b", .arr [.int (-12), .str "\n\u00e9", .null])]

def quotingApplication : Application :=
  [(⟨"Users", some ""⟩, [⟨"save", some "POST", some "all", some quotingBody⟩, ⟨"list", none, none, none⟩]),
    (⟨"Empty", none⟩, [])]

theorem quoting_readable : Readable none .ascii quotingBody := by
  have kept (s : String) : Json.Kept .ascii s := fun _ => (Json.unhalved_codes s).unpaired
  refine .obj (by simp) ?_ ?_ <;> simp only [List.forall_mem_cons]
  · exact ⟨kept _, by simp⟩
  · refine ⟨.arr ?_, by simp⟩
    simp only [List.forall_mem_cons]
    exact ⟨.int rfl, .str (kept _), .null, by simp⟩

theorem quoting_plain : PlainBodies quotingApplication := by
  intro body member
  obtain rfl : body = quotingBody := List.mem_singleton.mp member
  have spelled : quotingBody.spell .ascii .line 0 =
      codes "\x7b\"a\\\"b\": [-12, \"\\n\\u00e9\", null]\x7d" := by decide
  refine ⟨⟨_, spelled ▸ quoting_readable.readWithin .line⟩, .obj ?_⟩
  simp only [List.forall_mem_cons]
  refine ⟨.arr ?_, by simp⟩
  simp only [List.forall_mem_cons]
  exact ⟨.int _, .str _, .null, by simp⟩

theorem quoting_small : ¬ Oversized quotingApplication := by
  rintro ⟨body, member, n, held, long⟩
  obtain rfl : body = quotingBody := List.mem_singleton.mp member
  obtain rfl : n = -12 := List.mem_singleton.mp held
  exact absurd long (by decide)

end EndpointCatalog.Collection
