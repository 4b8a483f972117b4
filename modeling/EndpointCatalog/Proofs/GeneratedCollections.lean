import EndpointCatalog.Collection.Schema
import EndpointCatalog.Proofs.Acceptance
import EndpointCatalog.Proofs.CollectionText
import EndpointCatalog.Proofs.Scan

namespace EndpointCatalog.Collection

open Discovery (Application Controller Endpoint WellKnown Guide describeMethod scanTable
  standardVerbs verbOf verbOfName?)
open Json (ofFields readWithin read)
open Schema (Accepts Follow Fault Violation)
open Text (Codes codes)

variable {follow : Follow} {base : Codes} {controller : Controller} {endpoint : Endpoint}
  {entry : Controller × List Endpoint} {steps : Nat}

-- A method without a verb is listed as well.
def Listed (endpoint : Endpoint) : Prop := ∀ verb ∈ endpoint.verb, verb ∈ SchemaPart.verbs.map codes

instance : DecidablePred Listed := fun endpoint =>
  inferInstanceAs (Decidable (∀ verb ∈ endpoint.verb, verb ∈ SchemaPart.verbs.map codes))

def itemDocument (base : Codes) (controller : Controller) (endpoint : Endpoint) : Json :=
  ofFields (Item.ofEndpoint base controller endpoint).fields

def groupFields (base : Codes) (entry : Controller × List Endpoint) : List (Codes × Json) :=
  [("name", .str entry.1.name), ("item", .arr (entry.2.map (itemDocument base entry.1)))]

theorem texts_accepted (texts : List String) (s : Codes) :
    Accepts follow (SchemaPart.textAmong texts) (.str s) ↔ s ∈ texts.map codes := by
  have kind : Accepts follow (.ofKind [.string]) (.str s) := rfl
  have same (one : Codes) : Json.same (.str one) (.str s) = decide (one = s) := by
    rw [Json.same]
  simp [SchemaPart.textAmong, Schema.accepts_all, Schema.accepts_among, kind, same]

theorem text_accepted (s : Codes) : Accepts follow SchemaPart.text (.str s) := rfl

theorem object_textless (fields : List (Codes × Json)) :
    ¬ Accepts follow SchemaPart.text (ofFields fields) := nofun

theorem object_accepted (fields : List (Codes × Json)) :
    Accepts follow (.ofKind [.object]) (ofFields fields) := rfl

theorem verb_listed (follow : Follow) :
    (optionalText endpoint.verb ≠ .null →
      Accepts follow (SchemaPart.textAmong SchemaPart.verbs) (optionalText endpoint.verb)) ↔
      Listed endpoint := by
  cases held : endpoint.verb with
  | none => simp [Listed, held, optionalText]
  | some verb => simp [Listed, held, optionalText, texts_accepted]

theorem body_accepted (raw : Codes) :
    Accepts (schema.follow (steps + 1)) (.reference "#/definitions/body")
      (ofFields (Body.fields { raw := .str raw })) := rfl

theorem request_listed :
    Accepts (schema.follow (steps + 1)) SchemaPart.request
      (ofFields (Item.ofEndpoint base controller endpoint).request.fields) ↔ Listed endpoint := by
  have apart := Request.fields_apart (Item.ofEndpoint base controller endpoint).request
  have url (s : Codes) : Accepts (schema.follow (steps + 1)) (.ofKind [.string, .object]) (.str s) :=
    rfl
  rw [SchemaPart.request]
  simp only [Schema.accepts_all, List.forall_mem_cons, Schema.accepts_anyOf, List.exists_mem_cons_iff,
    object_textless, object_accepted, Schema.accepts_fields apart]
  rw [← verb_listed (schema.follow (steps + 1))]
  cases held : endpoint.body with
  | none => simp [Request.fields, Item.ofEndpoint, held, url]
  | some body => simp [Request.fields, Item.ofEndpoint, held, url, body_accepted]

theorem object_said (fields : List (Codes × Json)) : ofFields fields ≠ .null := nofun

theorem item_listed :
    Accepts (schema.follow (steps + 2)) SchemaPart.item (itemDocument base controller endpoint) ↔
      Listed endpoint := by
  have apart := Item.fields_apart (Item.ofEndpoint base controller endpoint)
  have anonymous : (Item.ofEndpoint base controller endpoint).id = .null := rfl
  have named : (Item.ofEndpoint base controller endpoint).name = .str endpoint.name := rfl
  have request (value : Json) :
      Accepts (schema.follow (steps + 2)) (.reference "#/definitions/request") value ↔
        Accepts (schema.follow (steps + 1)) SchemaPart.request value := Iff.rfl
  rw [SchemaPart.item, itemDocument]
  simp only [Schema.accepts_all, List.forall_mem_cons, object_accepted, Schema.accepts_fields apart,
    Schema.accepts_requiredFields]
  simp [Item.fields, anonymous, named, object_said, text_accepted, request, request_listed]

theorem item_no_group :
    ¬ Accepts follow SchemaPart.group (itemDocument base controller endpoint) := by
  intro accepted
  rw [SchemaPart.group, itemDocument] at accepted
  simp only [Schema.accepts_all, List.forall_mem_cons, Schema.accepts_requiredFields] at accepted
  simp [Item.fields] at accepted

theorem group_no_item : ¬ Accepts follow SchemaPart.item (ofFields (groupFields base entry)) := by
  intro accepted
  rw [SchemaPart.item] at accepted
  simp only [Schema.accepts_all, List.forall_mem_cons, Schema.accepts_requiredFields] at accepted
  simp [groupFields] at accepted

def nodeSchema : Schema :=
  .all [.anyOf [.reference "#/definitions/item", .reference "#/definitions/item-group"]]

theorem node_accepted (steps : Nat) (value : Json) :
    Accepts (schema.follow (steps + 1)) nodeSchema value ↔
      Accepts (schema.follow steps) SchemaPart.item value ∨
        Accepts (schema.follow steps) SchemaPart.group value := by
  have item : Accepts (schema.follow (steps + 1)) (.reference "#/definitions/item") value ↔
      Accepts (schema.follow steps) SchemaPart.item value := Iff.rfl
  have group : Accepts (schema.follow (steps + 1)) (.reference "#/definitions/item-group") value ↔
      Accepts (schema.follow steps) SchemaPart.group value := Iff.rfl
  simp [nodeSchema, Schema.accepts_all, Schema.accepts_anyOf, item, group]

theorem node_item :
    Accepts (schema.follow (steps + 3)) nodeSchema (itemDocument base controller endpoint) ↔
      Listed endpoint := by
  rw [node_accepted, item_listed, or_iff_left item_no_group]

theorem group_listed :
    Accepts (schema.follow (steps + 3)) SchemaPart.group (ofFields (groupFields base entry)) ↔
      ∀ endpoint ∈ entry.2, Listed endpoint := by
  have apart : ((groupFields base entry).map Prod.fst).Nodup :=
    show (["name", "item"] : List Codes).Nodup by decide
  have array (entries : List Json) :
      Accepts (schema.follow (steps + 3)) (.ofKind [.array]) (.arr entries) := rfl
  have nodes : SchemaPart.nodes = .all [.ofKind [.array], .items nodeSchema] := rfl
  rw [SchemaPart.group]
  simp only [Schema.accepts_all, List.forall_mem_cons, object_accepted, Schema.accepts_fields apart,
    Schema.accepts_requiredFields]
  simp [groupFields, text_accepted, nodes, Schema.accepts_all, array, Schema.accepts_items, node_item]

theorem node_group :
    Accepts (schema.follow (steps + 4)) nodeSchema (ofFields (groupFields base entry)) ↔
      ∀ endpoint ∈ entry.2, Listed endpoint := by
  rw [node_accepted, group_listed, or_iff_right group_no_item]

-- The groups, with their places, that hold a method with an unlisted verb.
def blamed (application : Application) : List ((Controller × List Endpoint) × Nat) :=
  application.zipIdx.filter fun place => decide (∃ endpoint ∈ place.1.2, ¬ Listed endpoint)

def blame (base : Codes) (place : (Controller × List Endpoint) × Nat) : Violation :=
  ⟨["item", codes (toString place.2)], .noAlternative (ofFields (groupFields base place.1))⟩

section Faults

theorem ofApplication_shows (application : Application) (base id : Codes) (exporterId : Nat) :
    List.Forall₂ Shows (ofApplication application base id exporterId).nodes
      (application.map fun entry => ofFields (groupFields base entry)) := by
  rw [ofApplication, List.forall₂_map_left_iff, List.forall₂_map_right_iff, List.forall₂_same]
  rintro ⟨controller, endpoints⟩ _
  refine .group ?_
  rw [List.forall₂_map_left_iff, List.forall₂_map_right_iff, List.forall₂_same]
  exact fun endpoint _ => .item _

theorem ofEndpoint_typed (base : Codes) (controller : Controller) (endpoint : Endpoint) :
    (Item.ofEndpoint base controller endpoint).Typed := by
  have method : TextOrNull (optionalText endpoint.verb) := by
    cases endpoint.verb with
    | none => exact .inl rfl
    | some verb => exact .inr ⟨verb, rfl⟩
  refine ⟨.inl rfl, .inr ⟨_, rfl⟩, ⟨.inr ⟨_, rfl⟩, method, fun body held => ?_⟩⟩
  obtain ⟨value, _, rfl⟩ := Option.map_eq_some_iff.mp held
  refine ⟨.inr ⟨_, rfl⟩, .inr ⟨_, rfl⟩, fun options held language named => ?_⟩
  cases held
  cases named
  exact .inr ⟨_, rfl⟩

theorem ofApplication_typed (application : Application) (base id : Codes) (exporterId : Nat) :
    (ofApplication application base id exporterId).Typed := by
  refine ⟨⟨.inr ⟨_, rfl⟩, .inr ⟨_, rfl⟩, .inr ⟨_, rfl⟩, .inr ⟨_, rfl⟩⟩, fun node member => ?_⟩
  obtain ⟨⟨controller, endpoints⟩, _, rfl⟩ := List.mem_map.mp member
  refine .group _ fun node member => ?_
  obtain ⟨endpoint, _, rfl⟩ := List.mem_map.mp member
  exact .item (ofEndpoint_typed base controller endpoint)

theorem node_violations (base : Codes) (entry : Controller × List Endpoint) :
    Schema.violations (schema.follow (steps + 4)) nodeSchema (ofFields (groupFields base entry)) =
      if ∃ endpoint ∈ entry.2, ¬ Listed endpoint then
        [(Fault.noAlternative (ofFields (groupFields base entry))).here]
      else [] := by
  split
  · rename_i unlisted
    refine Schema.rejected_alternatives fun accepted => ?_
    obtain ⟨endpoint, member, fault⟩ := unlisted
    exact fault (node_group.mp accepted endpoint member)
  · rename_i listed
    refine node_group.mpr fun endpoint member => ?_
    exact Decidable.byContradiction fun fault => listed ⟨endpoint, member, fault⟩

theorem flatMap_chosen {α β : Type} (chosen : α → Prop) [DecidablePred chosen] (f : α → β)
    (items : List α) :
    (items.flatMap fun item => if chosen item then [f item] else []) =
      (items.filter fun item => decide (chosen item)).map f := by
  induction items with
  | nil => rfl
  | cons item items ih =>
    rw [List.flatMap_cons, ih]
    by_cases taken : chosen item <;> simp [taken]

theorem nodes_violations (base : Codes) (application : Application) :
    Schema.violations (schema.follow (steps + 4)) SchemaPart.nodes
      (.arr (application.map fun entry => ofFields (groupFields base entry))) =
    (blamed application).map fun place =>
      ⟨[codes (toString place.2)], .noAlternative (ofFields (groupFields base place.1))⟩ := by
  have form (entries : List Json) :
      Schema.violations (schema.follow (steps + 4)) SchemaPart.nodes (.arr entries) =
        (entries.zipIdx.flatMap fun place =>
          (Schema.violations (schema.follow (steps + 4)) nodeSchema place.1).map
            (·.below (codes (toString place.2)))) ++ [] :=
    rfl
  have each (place : (Controller × List Endpoint) × Nat) :
      (Schema.violations (schema.follow (steps + 4)) nodeSchema
        (ofFields (groupFields base place.1))).map (·.below (codes (toString place.2))) =
      if ∃ endpoint ∈ place.1.2, ¬ Listed endpoint then
        [⟨[codes (toString place.2)], .noAlternative (ofFields (groupFields base place.1))⟩]
      else [] := by
    rw [node_violations]
    split <;> rfl
  rw [form, List.append_nil, List.zipIdx_map, List.flatMap_map]
  exact (List.flatMap_congr fun place _ => each place).trans (flatMap_chosen _ _ _)

theorem whole_violations (application : Application) (base id : Codes) (exporterId : Nat) :
    Schema.violations (schema.follow (steps + 4)) schema.root
      ((ofApplication application base id exporterId).whole
        (application.map fun entry => ofFields (groupFields base entry))) =
      (blamed application).map (blame base) := by
  have form (info nodes : Json) :
      Schema.violations (schema.follow (steps + 4)) schema.root
        (.obj [("info", info), ("item", nodes)]) =
      (Schema.violations (schema.follow (steps + 4)) (.reference "#/definitions/info") info).map
        (·.below "info") ++
      ((Schema.violations (schema.follow (steps + 4)) SchemaPart.nodes nodes).map (·.below "item") ++
        []) ++ [] := rfl
  have info : Schema.violations (schema.follow (steps + 4)) (.reference "#/definitions/info")
      (ofFields (ofApplication application base id exporterId).info.fields) = [] := rfl
  rw [whole, form, info, nodes_violations, List.map_map]
  simp only [List.map_nil, List.nil_append, List.append_nil]
  rfl

theorem blame_location (place : (Controller × List Endpoint) × Nat) :
    (blame base place).location = codes ("item." ++ toString place.2) := by
  have joined : List.intercalate (codes ".") (blame base place).path =
      codes ("item." ++ toString place.2) := by
    simp [blame, codes, List.intercalate]
  have said : codes ("item." ++ toString place.2) ≠ [] := by
    rw [Ne, Text.codes_eq_nil]
    intro silent
    simpa using congrArg String.toList silent
  rw [Violation.location, Schema.locationOf, joined]
  exact if_neg said

end Faults

section Verbs

variable {table : Symbol.Table} {known : WellKnown} {preset : Option String}

theorem standardVerbs_listed : ∀ entry ∈ standardVerbs, Text.upper entry.2 ∈ SchemaPart.verbs := by
  decide +kernel

theorem bound_listed {name verb : String} (found : Source.bound? name standardVerbs = some verb) :
    Text.upper verb ∈ SchemaPart.verbs := by
  obtain ⟨entry, held, rfl⟩ := Option.map_eq_some_iff.mp found
  exact standardVerbs_listed entry (List.mem_of_find?_eq_some held)

theorem verbOfName_listed {name verb : String} (found : verbOfName? standardVerbs name = some verb) :
    verb ∈ SchemaPart.verbs := by
  obtain ⟨entry, held, rfl⟩ := Option.map_eq_some_iff.mp found
  rcases Option.or_eq_some_iff.mp held with whole | ⟨_, last⟩
  · exact bound_listed whole
  · exact bound_listed last

theorem verbOf_listed {marker verb : String} (found : verbOf table standardVerbs marker = .ok verb) :
    verb ∈ SchemaPart.verbs := by
  unfold verbOf at found
  dsimp only at found
  split at found
  · rename_i chosen
    cases found
    obtain ⟨name, _, named⟩ := List.exists_of_findSome?_eq_some chosen
    exact verbOfName_listed named
  · cases found

-- A default verb that is none, is empty, or is listed in upper case.
def Presettable (preset : Option String) : Prop :=
  ∀ verb ∈ preset, verb = "" ∨ Text.upper verb ∈ SchemaPart.verbs

theorem describeMethod_listed (fine : Presettable preset) (method : Symbol.Method) :
    Listed (describeMethod table known standardVerbs preset method).1 := by
  intro verb held
  unfold describeMethod at held
  cases marked : table.findMarker method.markers known.methodMarker with
  | none =>
    rw [marked] at held
    dsimp only at held
    split at held
    · split at held
      · cases held
      · rename_i said
        cases held
        exact List.mem_map_of_mem ((fine _ rfl).resolve_left said)
    · cases held
  | some marker =>
    rw [marked] at held
    dsimp only at held
    cases found : verbOf table standardVerbs marker.typeName with
    | error e =>
      rw [found] at held
      cases held
    | ok verb =>
      rw [found] at held
      cases held
      exact List.mem_map_of_mem (verbOf_listed found)

theorem scanned_described {guide : Guide} {application : Application}
    (scanned : (scanTable table guide).1 = some application) (listed : entry ∈ application)
    (member : endpoint ∈ entry.2) : ∃ method,
      endpoint = (describeMethod table guide.known guide.verbs guide.defaultVerb method).1 := by
  unfold scanTable at scanned
  split at scanned
  · cases scanned
    obtain ⟨_, held, same⟩ := List.mem_filterMap.mp listed
    obtain ⟨type, _, rfl⟩ := List.mem_map.mp held
    unfold Discovery.scanController at same
    cases described : Discovery.describeController table guide.known type with
    | error e =>
      rw [described] at same
      cases same
    | ok controller =>
      rw [described] at same
      cases same
      obtain ⟨_, held, rfl⟩ := List.mem_map.mp member
      obtain ⟨method, _, rfl⟩ := List.mem_map.mp held
      exact ⟨method, rfl⟩
  · cases scanned

theorem scanTable_listed (fine : Presettable preset) {application : Application}
    (scanned : (scanTable table ⟨known, standardVerbs, preset⟩).1 = some application) :
    blamed application = [] := by
  refine List.filter_eq_nil_iff.mpr fun place member unlisted => ?_
  obtain ⟨endpoint, held, fault⟩ := of_decide_eq_true unlisted
  obtain ⟨method, rfl⟩ := scanned_described scanned (List.fst_mem_of_mem_zipIdx member) held
  exact fault (describeMethod_listed fine method)

end Verbs

theorem enough_steps (members : List (Codes × Json)) :
    ∃ steps, schema.stepBound (.obj members) = steps + 4 := by
  have bound : schema.stepBound (.obj members) = (membersDepth members + 1 + 1) * 6 := rfl
  exact ⟨schema.stepBound (.obj members) - 4, by omega⟩

theorem exporter_within {exporterId : Nat} (below : exporterId < exporterBound) :
    Json.Readable (some Json.digitLimit) .all (.int exporterId) := by
  have short : (Nat.toDigits 10 exporterId).length ≤ 10 := by
    rw [Nat.length_toDigits_le_iff (by decide) (by decide)]
    exact Nat.lt_of_lt_of_le below (by decide)
  have limit : Json.digitLimit = 4300 := rfl
  refine .int ?_
  simp only [Json.exceeds, Json.digitCount, Option.any_some, Int.natAbs_natCast]
  exact decide_eq_false (by omega)

theorem assemble_same {application : Application} {id : Codes} {exporterId : Nat}
    {collection : Collection}
    (assembled : assemble application base id exporterId = .ok collection) :
    collection = ofApplication application base id exporterId := by
  unfold assemble at assembled
  split at assembled
  · cases assembled
  · exact (Except.ok.inj assembled).symm

theorem generated_violations (application : Application) (base id : Codes) (exporterId : Nat) :
    ∃ content document,
      (∀ collection, assemble application base id exporterId = .ok collection →
        collection = ofApplication application base id exporterId) ∧
      (ofApplication application base id exporterId).textWithin none = .ok content ∧
      readWithin none content = .ok document ∧
      (exporterId < exporterBound →
        (ofApplication application base id exporterId).text = .ok content ∧
          read content = .ok document) ∧
      schema.violations document = Schema.inPathOrder ((blamed application).map (blame base)) ∧
      ((schema.violations document).map Violation.location).Perm
        ((blamed application).map fun place => codes ("item." ++ toString place.2)) ∧
      ∀ (table : Symbol.Table) (known : WellKnown) (preset : Option String), Presettable preset →
        (scanTable table ⟨known, standardVerbs, preset⟩).1 = some application →
        schema.messages document = [] := by
  have typed := ofApplication_typed application base id exporterId
  have shown := ofApplication_shows application base id exporterId
  have found : schema.violations ((ofApplication application base id exporterId).whole
      (application.map fun entry => ofFields (groupFields base entry))) =
      Schema.inPathOrder ((blamed application).map (blame base)) := by
    obtain ⟨steps, enough⟩ := enough_steps _
    rw [SchemaDocument.violations, SchemaDocument.errors, whole, enough, ← whole, whole_violations]
  have places : (((blamed application).map (blame base)).map Violation.location) =
      (blamed application).map fun place => codes ("item." ++ toString place.2) := by
    rw [List.map_map]
    exact List.map_congr_left fun place _ => blame_location place
  refine ⟨_, _, fun _ => assemble_same, text_shown shown,
    whole_read typed shown (exporter_readable typed), fun below => ?_, found, ?_, ?_⟩
  · have within := exporter_within below
    exact ⟨text_limited typed shown within, whole_read typed shown within⟩
  · rw [found, ← places]
    exact (List.mergeSort_perm _ _).map _
  · intro table known preset fine scanned
    rw [SchemaDocument.messages, found, scanTable_listed fine scanned]
    simp [Schema.inPathOrder]

def mixedApplication : Application :=
  [(⟨"Users", some "api"⟩, [⟨"list", some "GET", some "all", some (.arr [.null])⟩,
      ⟨"plain", none, none, none⟩]),
    (⟨"Traces", none⟩, [⟨"follow", some "TRACE", none, none⟩, ⟨"lower", some "get", none, none⟩])]

def presetApplication : Application := [(⟨"Users", none⟩, [⟨"list", some "GET", none, none⟩])]

theorem preset_scan : (scanTable Discovery.sampleTable
    ⟨Discovery.sampleGuide.known, standardVerbs, some "get"⟩).1 = some presetApplication := rfl

theorem mixed_violations :
    (∃ content document,
      (ofApplication mixedApplication "http://h/" "c" 5).text = .ok content ∧
      read content = .ok document ∧
      (schema.violations document).map Violation.location = [codes "item.1"]) ∧
    ∃ content document,
      (ofApplication presetApplication "http://h/" "c" 5).text = .ok content ∧
      read content = .ok document ∧ schema.messages document = [] := by
  obtain ⟨content, document, _, _, _, within, _, places, _⟩ :=
    generated_violations mixedApplication "http://h/" "c" 5
  obtain ⟨written, reads⟩ := within (by decide)
  refine ⟨⟨content, document, written, reads, List.perm_singleton.mp places⟩, ?_⟩
  obtain ⟨content, document, _, _, _, within, _, _, scanned⟩ :=
    generated_violations presetApplication "http://h/" "c" 5
  obtain ⟨written, reads⟩ := within (by decide)
  have fine : Presettable (some "get") := by
    intro verb held
    cases held
    exact .inr (by decide +kernel)
  exact ⟨content, document, written, reads, scanned _ _ _ fine preset_scan⟩

end EndpointCatalog.Collection
