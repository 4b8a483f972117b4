import EndpointCatalog.Proofs.CollectionFields

namespace EndpointCatalog.Collection

open Json (ofFields Legible NullFree Readable readWithin read spell digitLimit)
open Text (Codes)

inductive Shows : Node → Json → Prop where
  | item (item : Item) : Shows (.item item) (ofFields item.fields)
  | group {name : Json} {nodes : List Node} {documents : List Json}
      (each : List.Forall₂ Shows nodes documents) :
      Shows (.group name nodes) (.obj [("name", name), ("item", .arr documents)])

mutual

-- Each group is gone through where it stands.
def Node.others : Node → List String
  | .item _ => []
  | .group _ nodes => othersOf nodes
  | .other kind => [kind]

def othersOf : List Node → List String
  | [] => []
  | node :: rest => node.others ++ othersOf rest

end

inductive Node.Typed : Node → Prop where
  | item {item : Item} (typed : item.Typed) : Node.Typed (.item item)
  | group (name : Codes) {nodes : List Node} (each : ∀ node ∈ nodes, node.Typed) :
      Node.Typed (.group (.str name) nodes)
  | other (kind : String) : Node.Typed (.other kind)

variable {limit : Option Nat} {node : Node} {nodes : List Node} {documents : List Json}

-- What holds of a group when it holds of all its nodes, and of what is no group, holds everywhere.
theorem Node.nested {holds : Node → Prop} (item : ∀ item, holds (.item item))
    (group : ∀ name nodes, (∀ node ∈ nodes, holds node) → holds (.group name nodes))
    (other : ∀ kind, holds (.other kind)) : ∀ node, holds node
  | .item one => item one
  | .group name nodes => group name nodes fun node _ => Node.nested item group other node
  | .other kind => other kind

theorem documents_legible (each : List.Forall₂ Shows nodes documents)
    (legible : ∀ node ∈ nodes, ∀ document, Shows node document → Legible limit document) :
    Legible limit (.arr documents) := by
  refine Json.legible_arr ?_
  induction each with
  | nil => nofun
  | cons first _ ih =>
    rw [List.forall_mem_cons]
    exact ⟨legible _ (.head _) _ first, ih fun node member => legible node (.tail _ member)⟩

theorem Shows.legible {document : Json} (shown : Shows node document) (typed : node.Typed) :
    Legible limit document := by
  induction node using Node.nested generalizing document with
  | item item =>
    cases shown
    cases typed with
    | item typed => exact typed.legible
  | group name nodes ih =>
    cases shown with
    | @group _ _ documents each =>
      cases typed with
      | group name typed =>
        have below : Legible limit (.arr documents) :=
          documents_legible each fun node member _ shown => ih node member shown (typed node member)
        show Legible limit (ofFields [("name", .str name), ("item", .arr documents)])
        refine Json.legible_ofFields (show (["name", "item"] : List Codes).Nodup by decide) ?_
        simp only [List.forall_mem_cons]
        exact ⟨.inr (Json.legible_str name), .inr below, by simp⟩
  | other kind => cases shown

section Nodes

theorem Shows.cases_node {document : Json} (shown : Shows node document) :
    (∃ item, node = .item item ∧ document = ofFields item.fields) ∨
      ∃ name nodes documents, node = .group name nodes ∧ List.Forall₂ Shows nodes documents ∧
        document = .obj [("name", name), ("item", .arr documents)] := by
  cases shown with
  | item item => exact .inl ⟨item, rfl, rfl⟩
  | group each => exact .inr ⟨_, _, _, rfl, each, rfl⟩

theorem item_ungrouped (item : Item) (name : Json) (documents : List Json) :
    ofFields item.fields ≠ .obj [("name", name), ("item", .arr documents)] := by
  intro same
  have listed : (Text.codes "item", Json.arr documents) ∈ item.fields.filter fun field => !field.2.isNull := by
    rw [Json.obj.inj same]
    simp
  simp [Item.fields] at listed

theorem nodes_unique (each : List.Forall₂ Shows nodes documents) {others : List Node}
    (also : List.Forall₂ Shows others documents)
    (unique : ∀ node ∈ nodes, ∀ other document, Shows node document → Shows other document →
      node = other) : nodes = others := by
  induction each generalizing others with
  | nil =>
    cases also
    rfl
  | cons shown _ ih =>
    cases also with
    | cons first later =>
      rw [unique _ (.head _) _ _ shown first,
        ih later fun node member => unique node (.tail _ member)]

theorem Shows.node_unique {other : Node} {document : Json} (shown : Shows node document)
    (also : Shows other document) : node = other := by
  induction node using Node.nested generalizing other document with
  | item item =>
    cases shown
    rcases also.cases_node with ⟨another, rfl, same⟩ | ⟨name, nodes, documents, rfl, _, same⟩
    · rw [Item.document_injective same]
    · exact absurd same (item_ungrouped item name documents)
  | group name nodes ih =>
    cases shown with
    | group each =>
      rcases also.cases_node with ⟨another, rfl, same⟩ | ⟨title, others, documents, rfl, below, same⟩
      · exact absurd same.symm (item_ungrouped another _ _)
      · simp only [Json.obj.injEq, List.cons.injEq, Prod.mk.injEq, true_and, and_true,
          Json.arr.injEq] at same
        obtain ⟨rfl, rfl⟩ := same
        rw [nodes_unique each below fun node member _ _ shown also => ih node member shown also]
  | other kind => cases shown

theorem nodes_written (each : List.Forall₂ Shows nodes documents)
    (written : ∀ node ∈ nodes, ∀ document, Shows node document → node.document = .ok document) :
    nodeDocuments nodes = .ok documents := by
  induction each with
  | nil => rfl
  | cons shown _ ih =>
    have first := written _ (.head _) _ shown
    have rest := ih fun node member => written node (.tail _ member)
    simp [nodeDocuments, first, rest, bind, Except.bind, pure, Except.pure]

theorem Shows.written {document : Json} (shown : Shows node document) :
    node.document = .ok document := by
  induction node using Node.nested generalizing document with
  | item item =>
    cases shown
    exact congrArg Except.ok item.document_fields
  | group name nodes ih =>
    cases shown with
    | group each =>
      have nodes := nodes_written each fun node member _ => ih node member
      simp [Node.document, nodes, bind, Except.bind, pure, Except.pure]
  | other kind => cases shown

-- The first node that is neither an item nor a group is the error.
def Decided (node : Node) : Prop :=
  (node.others = [] → ∃ document, Shows node document) ∧
    ∀ kind, node.others.head? = some kind → node.document = .error ⟨kind⟩

theorem nodes_decided (each : ∀ node ∈ nodes, Decided node) :
    (othersOf nodes = [] → ∃ documents, List.Forall₂ Shows nodes documents) ∧
      ∀ kind, (othersOf nodes).head? = some kind → nodeDocuments nodes = .error ⟨kind⟩ := by
  induction nodes with
  | nil => exact ⟨fun _ => ⟨[], .nil⟩, nofun⟩
  | cons node nodes ih =>
    obtain ⟨whole, broken⟩ := each node (.head _)
    obtain ⟨wholes, brokens⟩ := ih fun node member => each node (.tail _ member)
    constructor
    · intro clean
      obtain ⟨here, below⟩ := List.append_eq_nil_iff.mp clean
      obtain ⟨document, shown⟩ := whole here
      obtain ⟨documents, each⟩ := wholes below
      exact ⟨document :: documents, .cons shown each⟩
    · intro kind first
      rw [othersOf] at first
      cases here : node.others with
      | nil =>
        obtain ⟨document, shown⟩ := whole here
        rw [here, List.nil_append] at first
        simp [nodeDocuments, shown.written, brokens kind first, bind, Except.bind]
      | cons other others =>
        rw [here] at first
        have failed := broken kind (here ▸ first)
        simp [nodeDocuments, failed, bind, Except.bind]

theorem Node.decided (node : Node) : Decided node := by
  induction node using Node.nested with
  | item item => exact ⟨fun _ => ⟨_, .item item⟩, nofun⟩
  | group name nodes ih =>
    obtain ⟨whole, broken⟩ := nodes_decided ih
    constructor
    · intro clean
      obtain ⟨documents, each⟩ := whole clean
      exact ⟨_, .group each⟩
    · intro kind first
      simp [Node.document, broken kind first, bind, Except.bind]
  | other kind =>
    constructor
    · intro clean
      cases clean
    · intro first same
      cases same
      rfl

end Nodes

def Typed (collection : Collection) : Prop :=
  collection.info.Typed ∧ ∀ node ∈ collection.nodes, node.Typed

def whole (collection : Collection) (documents : List Json) : Json :=
  .obj [("info", ofFields collection.info.fields), ("item", .arr documents)]

variable {collection : Collection}

theorem whole_legible (typed : collection.Typed) (each : List.Forall₂ Shows collection.nodes documents)
    (within : Readable limit .all collection.info.exporterId) :
    Legible limit (collection.whole documents) := by
  have nodes : Legible limit (.arr documents) :=
    documents_legible each fun node member _ shown => shown.legible (typed.2 node member)
  show Legible limit (ofFields [("info", ofFields collection.info.fields), ("item", .arr documents)])
  refine Json.legible_ofFields (show (["info", "item"] : List Codes).Nodup by decide) ?_
  simp only [List.forall_mem_cons]
  exact ⟨.inr (typed.1.legible within), .inr nodes, by simp⟩

-- How a document is spelled in the text of a collection.
def said (document : Json) : Codes := spell .all .indented 0 document

theorem document_shown (each : List.Forall₂ Shows collection.nodes documents) :
    collection.document = .ok (collection.whole documents) := by
  have nodes := nodes_written each fun node _ document shown => shown.written
  simp [document, nodes, bind, Except.bind, pure, Except.pure, Info.document_fields, whole]

theorem text_shown (each : List.Forall₂ Shows collection.nodes documents) :
    collection.textWithin none = .ok (said (collection.whole documents)) := by
  rw [textWithin, document_shown each]
  simp only [Json.write_unlimited]
  rfl

theorem text_limited (typed : collection.Typed) (each : List.Forall₂ Shows collection.nodes documents)
    (within : Readable limit .all collection.info.exporterId) :
    collection.textWithin limit = .ok (said (collection.whole documents)) := by
  rw [textWithin, document_shown each]
  simp only [(whole_legible typed each within).1.written]
  rfl

theorem text_whole (clean : othersOf collection.nodes = []) :
    ∃ documents, List.Forall₂ Shows collection.nodes documents ∧
      collection.textWithin none = .ok (said (collection.whole documents)) := by
  obtain ⟨documents, each⟩ := (nodes_decided fun node _ => node.decided).1 clean
  exact ⟨documents, each, text_shown each⟩

theorem whole_read (typed : collection.Typed) (each : List.Forall₂ Shows collection.nodes documents)
    (within : Readable limit .all collection.info.exporterId) :
    readWithin limit (said (collection.whole documents)) = .ok (collection.whole documents) :=
  (whole_legible typed each within).1.readWithin .indented

theorem text_broken {kind : String} (limit : Option Nat)
    (first : (othersOf collection.nodes).head? = some kind) :
    collection.textWithin limit = .error (.unsupported ⟨kind⟩) := by
  have failed := (nodes_decided fun node _ => node.decided).2 kind first
  simp [textWithin, document, failed, bind, Except.bind]

theorem text_clean {content : Codes} (written : collection.textWithin limit = .ok content) :
    othersOf collection.nodes = [] := by
  cases others : othersOf collection.nodes with
  | nil => rfl
  | cons kind rest =>
    have broken : collection.textWithin limit = .error (.unsupported ⟨kind⟩) :=
      text_broken limit (by rw [others]; rfl)
    rw [broken] at written
    cases written

theorem exporter_readable (typed : collection.Typed) :
    Readable none .all collection.info.exporterId := by
  rcases typed.1.exporterId with null | ⟨n, held⟩
  · rw [null]
    exact .null
  · rw [held]
    exact .int rfl

theorem whole_injective {other : Collection} {others : List Json}
    (shown : List.Forall₂ Shows collection.nodes documents)
    (also : List.Forall₂ Shows other.nodes others)
    (same : collection.whole documents = other.whole others) : collection = other := by
  simp only [whole, Json.obj.injEq, List.cons.injEq, Prod.mk.injEq, true_and, and_true,
    Json.arr.injEq] at same
  obtain ⟨info, rfl⟩ := same
  have nodes : collection.nodes = other.nodes :=
    nodes_unique shown also fun _ _ _ _ shown also => shown.node_unique also
  have infos : collection.info = other.info := Info.document_injective info
  cases collection
  cases other
  cases infos
  cases nodes
  rfl

theorem text_injective {other : Collection} {content : Codes} (typed : collection.Typed)
    (written : collection.textWithin none = .ok content) (also : other.Typed)
    (rewritten : other.textWithin none = .ok content) : collection = other := by
  obtain ⟨documents, shown, text⟩ := text_whole (text_clean written)
  obtain ⟨others, reshown, retext⟩ := text_whole (text_clean rewritten)
  have same : said (collection.whole documents) = said (other.whole others) := by
    rw [written, ← rewritten, retext] at text
    exact (Except.ok.inj text).symm
  exact whole_injective shown reshown (Json.spell_injective
    (whole_legible typed shown (exporter_readable typed)).1
    (whole_legible also reshown (exporter_readable also)).1 same)

-- The text that is made at run time is the same only if the exporter number has not too many
-- digits.
theorem text_reads_back (typed : collection.Typed) :
    ((∃ content, collection.textWithin none = .ok content) ↔ othersOf collection.nodes = []) ∧
    (∀ limit kind, (othersOf collection.nodes).head? = some kind →
      ∃ e, collection.textWithin limit = .error e ∧
        e.message = "Unsupported collection node: " ++ kind) ∧
    ∀ content, collection.textWithin none = .ok content →
      (∃ documents, List.Forall₂ Shows collection.nodes documents ∧
        NullFree (collection.whole documents) ∧
        readWithin none content = .ok (collection.whole documents) ∧
        (Readable (some digitLimit) .all collection.info.exporterId →
          collection.text = .ok content ∧ read content = .ok (collection.whole documents))) ∧
      ∀ other : Collection, other.Typed → other.textWithin none = .ok content →
        other = collection := by
  refine ⟨⟨fun ⟨content, written⟩ => text_clean written, fun clean => ?_⟩,
    fun limit kind first => ?_, ?_⟩
  · obtain ⟨documents, _, written⟩ := text_whole clean
    exact ⟨_, written⟩
  · exact ⟨_, text_broken limit first, rfl⟩
  · intro content written
    obtain ⟨documents, shown, text⟩ := text_whole (text_clean written)
    obtain rfl : said (collection.whole documents) = content :=
      Except.ok.inj (text.symm.trans written)
    have readable := exporter_readable typed
    refine ⟨⟨documents, shown, (whole_legible typed shown readable).2,
      whole_read typed shown readable, fun within => ?_⟩, ?_⟩
    · exact ⟨text_limited typed shown within, whole_read typed shown within⟩
    · intro other also rewritten
      exact (text_injective typed written also rewritten).symm

def quotedCollection : Collection :=
  { info := { id := .str "\"1\\\u0001\"", exporterId := .int (-7) }
    nodes := [.group (.str "\u00c9\t\u2028") [.group (.str "") [.item
      { name := .str "tail\n", request := { url := .str "http://h/", body := some { raw := .str "[]" } } }],
      .item { id := .str "/", name := .null, request := { url := .str "\ufffd" } }]] }

def strayCollection : Collection :=
  { quotedCollection with
    nodes := quotedCollection.nodes ++ [.group (.str "s") [.foreign (.arr []), .foreign .null]] }

theorem quoted_typed : quotedCollection.Typed := by
  have request (url raw : String) :
      Request.Typed { url := .str url, body := some { raw := .str raw } } := by
    refine ⟨.inr ⟨_, rfl⟩, .inl rfl, fun body held => ?_⟩
    cases held
    refine ⟨.inr ⟨_, rfl⟩, .inr ⟨_, rfl⟩, fun options held language named => ?_⟩
    cases held
    cases named
    exact .inr ⟨_, rfl⟩
  have nodes : ∀ node ∈ quotedCollection.nodes, node.Typed := by
    simp only [quotedCollection, List.forall_mem_cons]
    refine ⟨.group _ ?_, by simp⟩
    simp only [List.forall_mem_cons]
    refine ⟨.group _ ?_, .item ⟨.inr ⟨_, rfl⟩, .inl rfl, ⟨.inr ⟨_, rfl⟩, .inl rfl, nofun⟩⟩, by simp⟩
    simp only [List.forall_mem_cons]
    exact ⟨.item ⟨.inl rfl, .inr ⟨_, rfl⟩, request _ _⟩, by simp⟩
  exact ⟨⟨.inr ⟨_, rfl⟩, .inr ⟨_, rfl⟩, .inr ⟨_, rfl⟩, .inr ⟨_, rfl⟩⟩, nodes⟩

theorem stray_typed : strayCollection.Typed := by
  refine ⟨quoted_typed.1, fun node member => ?_⟩
  rcases List.mem_append.mp member with quoted | stray
  · exact quoted_typed.2 node quoted
  · rw [List.mem_singleton.mp stray]
    refine .group _ ?_
    simp only [List.forall_mem_cons]
    exact ⟨.other _, .other _, by simp⟩

theorem quoted_reads_back :
    (∃ content document, quotedCollection.text = .ok content ∧ read content = .ok document ∧
      NullFree document) ∧
    ∃ e, strayCollection.text = .error e ∧ e.message = "Unsupported collection node: list" := by
  obtain ⟨settled, _, back⟩ := text_reads_back quoted_typed
  obtain ⟨content, written⟩ := settled.mpr rfl
  obtain ⟨⟨documents, _, free, _, within⟩, _⟩ := back content written
  obtain ⟨_, broken, _⟩ := text_reads_back stray_typed
  obtain ⟨limited, reads⟩ := within (.int rfl)
  exact ⟨⟨content, _, limited, reads, free⟩, broken (some digitLimit) "list" rfl⟩

end EndpointCatalog.Collection
