import EndpointCatalog.Collection.Document
import EndpointCatalog.Proofs.WrittenDocuments

namespace EndpointCatalog.Json

open Text (Codes)

def isNull : Json → Bool
  | .null => true
  | _ => false

def ofFields (fields : List (Codes × Json)) : Json :=
  .obj (fields.filter fun field => !field.2.isNull)

inductive NullFree : Json → Prop where
  | bool (b : Bool) : NullFree (.bool b)
  | int (n : Int) : NullFree (.int n)
  | float (x : Decimal.Double) : NullFree (.float x)
  | str (s : Codes) : NullFree (.str s)
  | arr {items : List Json} (each : ∀ item ∈ items, NullFree item) : NullFree (.arr items)
  | obj {members : List (Codes × Json)} (each : ∀ member ∈ members, NullFree member.2) :
      NullFree (.obj members)

def Legible (limit : Option Nat) (value : Json) : Prop :=
  Readable limit .all value ∧ NullFree value

theorem kept_all (s : Codes) : Kept .all s := nofun

variable {limit : Option Nat} {fields others : List (Codes × Json)}

theorem isNull_iff (value : Json) : value.isNull = true ↔ value = .null := by
  cases value <;> simp [isNull]

theorem legible_str (s : Codes) : Legible limit (.str s) := ⟨.str (kept_all s), .str s⟩

theorem legible_arr {items : List Json} (each : ∀ item ∈ items, Legible limit item) :
    Legible limit (.arr items) :=
  ⟨.arr fun item member => (each item member).1, .arr fun item member => (each item member).2⟩

theorem kept_apart (apart : (fields.map Prod.fst).Nodup) :
    ((fields.filter fun field => !field.2.isNull).map Prod.fst).Nodup :=
  apart.sublist (List.filter_sublist.map _)

theorem legible_ofFields (apart : (fields.map Prod.fst).Nodup)
    (each : ∀ field ∈ fields, field.2 = .null ∨ Legible limit field.2) :
    Legible limit (ofFields fields) := by
  have kept : ∀ field ∈ fields.filter fun field => !field.2.isNull, Legible limit field.2 := by
    intro field member
    obtain ⟨listed, said⟩ := List.mem_filter.mp member
    rcases each field listed with null | legible
    · rw [null] at said
      cases said
    · exact legible
  exact ⟨.obj (kept_apart apart) (fun field _ => kept_all field.1) fun field member => (kept field member).1,
    .obj fun field member => (kept field member).2⟩

-- A field that one object holds and that is null for the other would be told from it by its name.
theorem kept_absent {name : Codes} {value : Json} (fresh : name ∉ fields.map Prod.fst) :
    (name, value) ∉ fields.filter fun field => !field.2.isNull := by
  intro member
  exact fresh (List.mem_map.mpr ⟨(name, value), (List.mem_filter.mp member).1, rfl⟩)

theorem ofFields_injective (same : ofFields fields = ofFields others)
    (named : fields.map Prod.fst = others.map Prod.fst) (apart : (fields.map Prod.fst).Nodup) :
    fields = others := by
  have kept : (fields.filter fun field => !field.2.isNull) =
      others.filter fun field => !field.2.isNull := Json.obj.inj same
  clear same
  induction fields generalizing others with
  | nil => exact (List.map_eq_nil_iff.mp named.symm).symm
  | cons field fields ih =>
    obtain ⟨name, value⟩ := field
    cases others with
    | nil => cases named
    | cons other others =>
      obtain ⟨key, held⟩ := other
      obtain ⟨rfl, rest⟩ := List.cons.inj named
      obtain ⟨fresh, distinct⟩ := List.nodup_cons.mp apart
      cases left : value.isNull <;> cases right : held.isNull <;>
        simp only [List.filter_cons, left, right, Bool.not_false, Bool.not_true, if_true,
          Bool.false_eq_true, if_false] at kept
      · obtain ⟨first, later⟩ := List.cons.inj kept
        rw [ih rest distinct later, first]
      · have listed : (name, value) ∈ others.filter fun field => !field.2.isNull :=
          kept ▸ List.mem_cons_self
        exact absurd listed (kept_absent (rest ▸ fresh))
      · have listed : (name, held) ∈ fields.filter fun field => !field.2.isNull :=
          kept ▸ List.mem_cons_self
        exact absurd listed (kept_absent fresh)
      · rw [ih rest distinct kept, (isNull_iff value).mp left, (isNull_iff held).mp right]

end EndpointCatalog.Json

namespace EndpointCatalog.Collection

open Text (Codes)

open Json (ofFields Legible Readable)

def Info.fields (info : Info) : List (Codes × Json) :=
  [("_postman_id", info.id), ("name", info.name), ("schema", info.schemaUrl),
    ("_exporter_id", info.exporterId)]

def BodyOptions.fields (options : BodyOptions) : List (Codes × Json) :=
  [("raw", (options.language.map fun language => ofFields [("language", language)]).getD .null)]

def Body.fields (body : Body) : List (Codes × Json) :=
  [("mode", body.mode), ("raw", body.raw),
    ("options", (body.options.map fun options => ofFields options.fields).getD .null)]

def Request.fields (request : Request) : List (Codes × Json) :=
  [("url", request.url), ("method", request.method),
    ("body", (request.body.map fun body => ofFields body.fields).getD .null)]

def Item.fields (item : Item) : List (Codes × Json) :=
  [("id", item.id), ("name", item.name), ("request", ofFields item.request.fields)]

def TextOrNull (value : Json) : Prop := value = .null ∨ ∃ s, value = .str s

structure Info.Typed (info : Info) : Prop where
  id : TextOrNull info.id
  name : TextOrNull info.name
  schemaUrl : TextOrNull info.schemaUrl
  exporterId : info.exporterId = .null ∨ ∃ n, info.exporterId = .int n

structure Body.Typed (body : Body) : Prop where
  mode : TextOrNull body.mode
  raw : TextOrNull body.raw
  language : ∀ options ∈ body.options, ∀ language ∈ options.language, TextOrNull language

structure Request.Typed (request : Request) : Prop where
  url : TextOrNull request.url
  method : TextOrNull request.method
  body : ∀ body ∈ request.body, body.Typed

structure Item.Typed (item : Item) : Prop where
  id : TextOrNull item.id
  name : TextOrNull item.name
  request : item.request.Typed

variable {limit : Option Nat}

section Fields

theorem Info.fields_apart (info : Info) : (info.fields.map Prod.fst).Nodup :=
  show (["_postman_id", "name", "schema", "_exporter_id"] : List Codes).Nodup by decide

theorem language_apart (language : Json) :
    ([(Text.codes "language", language)].map Prod.fst).Nodup :=
  show (["language"] : List Codes).Nodup by decide

theorem BodyOptions.fields_apart (options : BodyOptions) : (options.fields.map Prod.fst).Nodup :=
  show (["raw"] : List Codes).Nodup by decide

theorem Body.fields_apart (body : Body) : (body.fields.map Prod.fst).Nodup :=
  show (["mode", "raw", "options"] : List Codes).Nodup by decide

theorem Request.fields_apart (request : Request) : (request.fields.map Prod.fst).Nodup :=
  show (["url", "method", "body"] : List Codes).Nodup by decide

theorem Item.fields_apart (item : Item) : (item.fields.map Prod.fst).Nodup :=
  show (["id", "name", "request"] : List Codes).Nodup by decide

theorem field_filter (name : Codes) (value : Json) :
    field name value = [(name, value)].filter fun field => !field.2.isNull := by
  cases value <;> rfl

theorem Info.document_fields (info : Info) : info.document = ofFields info.fields := by
  simp only [Info.document, field_filter, ← List.filter_append]
  rfl

theorem BodyOptions.document_fields (options : BodyOptions) :
    options.document = ofFields options.fields := by
  obtain ⟨language⟩ := options
  cases language with
  | none => rfl
  | some language =>
    simp only [BodyOptions.document, field_filter]
    rfl

theorem optional_filter {α : Type} (name : Codes) (part : Option α)
    (fields : α → List (Codes × Json)) :
    (part.map fun one => (name, ofFields (fields one))).toList =
      [(name, (part.map fun one => ofFields (fields one)).getD .null)].filter
        fun field => !field.2.isNull := by
  cases part <;> rfl

theorem Body.document_fields (body : Body) : body.document = ofFields body.fields := by
  simp only [Body.document, BodyOptions.document_fields, optional_filter, field_filter,
    ← List.filter_append]
  rfl

theorem Request.document_fields (request : Request) : request.document = ofFields request.fields := by
  simp only [Request.document, Body.document_fields, optional_filter, field_filter,
    ← List.filter_append]
  rfl

theorem object_filter (name : Codes) (fields : List (Codes × Json)) :
    [(name, ofFields fields)] =
      [(name, ofFields fields)].filter fun field => !field.2.isNull := rfl

theorem Item.document_fields (item : Item) : item.document = ofFields item.fields := by
  simp only [Item.document, Request.document_fields, field_filter]
  rw [object_filter]
  simp only [← List.filter_append]
  rfl

theorem part_injective {α : Type} {fields : α → List (Codes × Json)} {part other : Option α}
    (each : ∀ {one another}, ofFields (fields one) = ofFields (fields another) → one = another)
    (same : (part.map fun one => ofFields (fields one)).getD .null =
      (other.map fun one => ofFields (fields one)).getD .null) : part = other := by
  cases part <;> cases other
  · rfl
  · cases same
  · cases same
  · exact congrArg some (each same)

theorem Info.document_injective {info other : Info} (same : ofFields info.fields = ofFields other.fields) :
    info = other := by
  have fields := Json.ofFields_injective same rfl (Info.fields_apart _)
  cases info
  cases other
  simpa [Info.fields] using fields

theorem BodyOptions.document_injective {options other : BodyOptions}
    (same : ofFields options.fields = ofFields other.fields) : options = other := by
  have fields := Json.ofFields_injective same rfl (BodyOptions.fields_apart _)
  obtain ⟨language⟩ := options
  obtain ⟨spoken⟩ := other
  refine congrArg BodyOptions.mk (part_injective ?_ (Prod.mk.inj (List.cons.inj fields).1).2)
  intro one another same
  have fields := Json.ofFields_injective same rfl (language_apart _)
  simpa using fields

theorem Body.document_injective {body other : Body}
    (same : ofFields body.fields = ofFields other.fields) : body = other := by
  have fields := Json.ofFields_injective same rfl (Body.fields_apart _)
  cases body
  cases other
  simp only [Body.fields, List.cons.injEq, Prod.mk.injEq, true_and, and_true] at fields
  obtain ⟨rfl, rfl, options⟩ := fields
  rw [part_injective BodyOptions.document_injective options]

theorem Request.document_injective {request other : Request}
    (same : ofFields request.fields = ofFields other.fields) : request = other := by
  have fields := Json.ofFields_injective same rfl (Request.fields_apart _)
  cases request
  cases other
  simp only [Request.fields, List.cons.injEq, Prod.mk.injEq, true_and, and_true] at fields
  obtain ⟨rfl, rfl, body⟩ := fields
  rw [part_injective Body.document_injective body]

theorem Item.document_injective {item other : Item}
    (same : ofFields item.fields = ofFields other.fields) : item = other := by
  have fields := Json.ofFields_injective same rfl (Item.fields_apart _)
  cases item
  cases other
  simp only [Item.fields, List.cons.injEq, Prod.mk.injEq, true_and, and_true] at fields
  obtain ⟨rfl, rfl, request⟩ := fields
  rw [Request.document_injective request]

end Fields

section Legibility

theorem TextOrNull.legible {value : Json} (typed : TextOrNull value) :
    value = .null ∨ Legible limit value := by
  rcases typed with null | ⟨s, rfl⟩
  · exact .inl null
  · exact .inr (Json.legible_str s)

theorem part_legible {α : Type} {fields : α → List (Codes × Json)} {part : Option α}
    (each : ∀ one ∈ part, Legible limit (ofFields (fields one))) :
    (part.map fun one => ofFields (fields one)).getD .null = .null ∨
      Legible limit ((part.map fun one => ofFields (fields one)).getD .null) := by
  cases part with
  | none => exact .inl rfl
  | some one => exact .inr (each one rfl)

theorem Body.Typed.legible {body : Body} (typed : body.Typed) :
    Legible limit (ofFields body.fields) := by
  have options : ∀ options ∈ body.options, Legible limit (ofFields options.fields) := by
    intro options held
    have spoken : ∀ language ∈ options.language,
        Legible limit (ofFields [("language", language)]) := by
      intro language named
      refine Json.legible_ofFields (language_apart language) fun field member => ?_
      rw [List.mem_singleton.mp member]
      exact (typed.language options held language named).legible
    refine Json.legible_ofFields (BodyOptions.fields_apart _) fun field member => ?_
    rw [List.mem_singleton.mp member]
    exact part_legible spoken
  refine Json.legible_ofFields (Body.fields_apart _) ?_
  simp only [Body.fields, List.forall_mem_cons]
  exact ⟨typed.mode.legible, typed.raw.legible, part_legible options, by simp⟩

theorem Request.Typed.legible {request : Request} (typed : request.Typed) :
    Legible limit (ofFields request.fields) := by
  refine Json.legible_ofFields (Request.fields_apart _) ?_
  simp only [Request.fields, List.forall_mem_cons]
  exact ⟨typed.url.legible, typed.method.legible,
    part_legible fun body held => (typed.body body held).legible, by simp⟩

theorem Item.Typed.legible {item : Item} (typed : item.Typed) :
    Legible limit (ofFields item.fields) := by
  refine Json.legible_ofFields (Item.fields_apart _) ?_
  simp only [Item.fields, List.forall_mem_cons]
  exact ⟨typed.id.legible, typed.name.legible, .inr typed.request.legible, by simp⟩

theorem Info.Typed.legible {info : Info} (typed : info.Typed) (within : Readable limit .all info.exporterId) :
    Legible limit (ofFields info.fields) := by
  have exporter : info.exporterId = .null ∨ Legible limit info.exporterId := by
    rcases typed.exporterId with null | ⟨n, held⟩
    · exact .inl null
    · exact .inr ⟨within, held ▸ .int n⟩
  refine Json.legible_ofFields (Info.fields_apart _) ?_
  simp only [Info.fields, List.forall_mem_cons]
  exact ⟨typed.id.legible, typed.name.legible, typed.schemaUrl.legible, exporter, by simp⟩

end Legibility

end EndpointCatalog.Collection
