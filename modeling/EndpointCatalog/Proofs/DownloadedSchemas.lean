import EndpointCatalog.Proofs.EncodedDocuments
import EndpointCatalog.Proofs.PartsOrder
import EndpointCatalog.Schema.Origin

namespace EndpointCatalog.Schema

open Json (Encodes LoadError ofContent)
open Text (Codes codes)

def Succeeds (status : Nat) : Prop := 200 ≤ status ∧ status ≤ 299

-- The content is a text that is read as a document.
def Spells (content : List UInt8) (document : Json) : Prop :=
  ∃ said, Text.decode content = .ok said ∧ Json.read said = .ok document

-- The content is a text that is no document.
def Garbled (content : List UInt8) : Prop :=
  ∃ said cause line column offset, Text.decode content = .ok said ∧
    Json.read said = .error (.unexpected cause line column offset)

-- The content is no text, or its text has a whole number of more digits than are read.
def Unreadable (content : List UInt8) : LoadError → Prop
  | .file _ => False
  | .encoding e => Text.decode content = .error e
  | .text e => ∃ said count, Text.decode content = .ok said ∧
      Json.read said = .error e ∧ e = .tooManyDigits count

-- A text was found that is no document.
def Misspelt : LoadError → Prop
  | .text (.unexpected ..) => True
  | _ => False

theorem encoded_spells {said : String} {content : List UInt8} {document : Json}
    (read : Json.read said = .ok document) (encodes : Encodes said.toList content) :
    Spells content document :=
  ⟨_, Json.decode_document read encodes, read⟩

section Documents

variable {address : String} {status : Nat} {content : List UInt8}

theorem ofContent_undecodable {e : Text.DecodeError} (undecoded : Text.decode content = .error e) :
    ofContent content = .error (.encoding e) := by
  rw [ofContent, undecoded]

theorem ofContent_decoded {said : Codes} (decoded : Text.decode content = .ok said) :
    ofContent content = (Json.read said).mapError .text := by
  rw [ofContent, decoded]

theorem ofContent_ok {document : Json} :
    ofContent content = .ok document ↔ Spells content document := by
  unfold Spells
  cases decoded : Text.decode content with
  | error e => simp [ofContent_undecodable decoded]
  | ok said =>
    rw [ofContent_decoded decoded]
    cases read : Json.read said <;> simp [Except.mapError, read]

theorem ofContent_garbled :
    (∃ e, ofContent content = .error e ∧ Misspelt e) ↔ Garbled content := by
  unfold Garbled
  cases decoded : Text.decode content with
  | error e => simp [ofContent_undecodable decoded, Misspelt]
  | ok said =>
    rw [ofContent_decoded decoded]
    cases read : Json.read said with
    | ok document => simp [Except.mapError, read]
    | error e => cases e <;> simp [Except.mapError, Misspelt, read]

theorem ofContent_unreadable {e : LoadError} :
    ofContent content = .error e ∧ ¬Misspelt e ↔ Unreadable content e := by
  constructor
  · rintro ⟨failed, spelt⟩
    cases decoded : Text.decode content with
    | error fault =>
      rw [ofContent_undecodable decoded] at failed
      cases failed
      exact decoded
    | ok said =>
      rw [ofContent_decoded decoded] at failed
      cases read : Json.read said with
      | ok document =>
        rw [read] at failed
        cases failed
      | error fault =>
        rw [read] at failed
        cases failed
        cases fault with
        | unexpected cause line column offset => exact absurd trivial spelt
        | tooManyDigits count => exact ⟨said, count, decoded, read, rfl⟩
  · intro unreadable
    cases e with
    | file e => exact unreadable.elim
    | encoding e => exact ⟨ofContent_undecodable unreadable, id⟩
    | text e =>
      obtain ⟨said, count, decoded, failed, rfl⟩ := unreadable
      rw [ofContent_decoded decoded, failed]
      exact ⟨rfl, id⟩

theorem ofUnread_fetch {e : LoadError} {said : FetchError} :
    ofUnread address e = .fetch said ↔ Misspelt e ∧ said = .noDocument address := by
  cases e with
  | text e => cases e <;> simp [ofUnread, Misspelt, eq_comm]
  | _ => simp [ofUnread, Misspelt]

theorem ofUnread_load {e e' : LoadError} :
    ofUnread address e = .load e' ↔ e = e' ∧ ¬Misspelt e' := by
  constructor
  · intro same
    cases e with
    | text e => cases e <;> cases same; exact ⟨rfl, id⟩
    | _ => cases same; exact ⟨rfl, id⟩
  · rintro ⟨rfl, spelt⟩
    cases e with
    | text e =>
      cases e with
      | unexpected cause line column offset => exact absurd trivial spelt
      | tooManyDigits count => rfl
    | _ => rfl

theorem ofUnread_rejected {e : LoadError} {why : Rejection} :
    ofUnread address e ≠ .rejected why := by
  unfold ofUnread
  split <;> simp

theorem document_succeeds (success : Succeeds status) :
    (Reply.answered status content).document address =
      (ofContent content).mapError (ofUnread address) :=
  if_neg fun outside => by
    unfold Succeeds at success
    omega

theorem document_fails (failure : ¬Succeeds status) :
    (Reply.answered status content).document address = .error (.fetch (.status address status)) :=
  if_pos (by
    unfold Succeeds at failure
    omega)

theorem document_ok {document : Json} :
    (Reply.answered status content).document address = .ok document ↔
      Succeeds status ∧ Spells content document := by
  by_cases success : Succeeds status
  · rw [document_succeeds success, ← ofContent_ok]
    cases ofContent content <;> simp [Except.mapError, success]
  · simp [document_fails success, success]

theorem document_fetch {e : FetchError} :
    (Reply.answered status content).document address = .error (.fetch e) ↔
      ¬Succeeds status ∧ e = .status address status ∨
        Succeeds status ∧ Garbled content ∧ e = .noDocument address := by
  by_cases success : Succeeds status
  · rw [document_succeeds success, ← ofContent_garbled]
    cases ofContent content <;> simp [Except.mapError, success, ofUnread_fetch]
  · simp [document_fails success, success, eq_comm]

theorem document_load {e : LoadError} :
    (Reply.answered status content).document address = .error (.load e) ↔
      Succeeds status ∧ Unreadable content e := by
  by_cases success : Succeeds status
  · rw [document_succeeds success, ← ofContent_unreadable]
    cases ofContent content <;> simp [Except.mapError, success, ofUnread_load]
  · simp [document_fails success, success]

theorem document_rejected {e : Rejection} :
    (Reply.answered status content).document address ≠ .error (.rejected e) := by
  by_cases success : Succeeds status
  · rw [document_succeeds success]
    cases ofContent content <;> simp [Except.mapError, ofUnread_rejected]
  · simp [document_fails success]

end Documents

section Rejections

open SchemaDocument (ofJson)

variable {document : Json}

theorem ofJson_lost {why : Rejection} (lost : dialectOf document = .error why) :
    ofJson document = .error why := by
  rw [ofJson, lost]
  rfl

theorem ofJson_malformed {dialect : Dialect} (found : dialectOf document = .ok dialect)
    (formless : ofJson? dialect document = none) : ofJson document = .error .malformed := by
  rw [ofJson, found]
  simp only [bind, Except.bind, formless]
  rfl

theorem ofJson_formed {dialect : Dialect} {root : Schema} (found : dialectOf document = .ok dialect)
    (formed : ofJson? dialect document = some root) :
    ∃ targets, ofJson document = .ok ⟨root, targets⟩ := by
  rw [ofJson, found]
  simp only [bind, Except.bind, formed]
  exact ⟨_, rfl⟩

theorem hasInfix_iff (part text : Codes) : hasInfix part text = true ↔ part <:+: text := by
  induction text with
  | nil => simp [hasInfix]
  | cons c rest ih => simp [hasInfix, List.infix_cons_iff, ih]

theorem same_text (value : Json) (name : String) :
    value.same (.str name) = true ↔ value = .str name := by
  cases value <;> simp [Json.same, Json.compareNumbers]

-- Texts and lists pass if the name is not in them.
def Searchable : Json → Prop
  | .int _ | .float _ => False
  | .str s => ¬codes dialectName <:+: s
  | .arr entries => .str dialectName ∉ entries
  | _ => True

-- What passes for an empty name counts as a name.
def Naming (value : Json) : Prop := (∃ name, value = .str name) ∨ isBlankName value = true

theorem find_plain (plain : ∀ fields, document ≠ .obj fields) (name : String) :
    document.find? name = none := by
  cases document with
  | obj fields => exact absurd rfl (plain fields)
  | _ => rfl

theorem dialectOf_searched (plain : ∀ fields, document ≠ .obj fields) :
    dialectOf document = .ok .current ∧ Searchable document ∨
      dialectOf document = .error (.unsearchable document) ∧ ¬Searchable document := by
  cases document with
  | null => exact .inl ⟨rfl, trivial⟩
  | bool value => exact .inl ⟨rfl, trivial⟩
  | int value => exact .inr ⟨rfl, id⟩
  | float value => exact .inr ⟨rfl, id⟩
  | str s =>
    by_cases within : codes dialectName <:+: s
    · exact .inr ⟨if_pos ((hasInfix_iff _ _).mpr within), fun free => free within⟩
    · exact .inl ⟨if_neg fun found => within ((hasInfix_iff _ _).mp found), within⟩
  | arr entries =>
    have listed : entries.any (·.same (.str dialectName)) = true ↔ .str dialectName ∈ entries := by
      simp only [List.any_eq_true, same_text, exists_eq_right]
    by_cases within : .str dialectName ∈ entries
    · exact .inr ⟨if_pos (listed.mpr within), fun free => free within⟩
    · exact .inl ⟨if_neg fun found => within (listed.mp found), within⟩
  | obj fields => exact absurd rfl (plain fields)

theorem dialectNamed_failed (value : Json) :
    (∃ why, dialectNamed value = .error why ∧ why ≠ .malformed) ↔ ¬Naming value := by
  by_cases blank : isBlankName value = true
  · cases value <;> simp [dialectNamed, Naming, blank]
  · cases value <;> simp [dialectNamed, Naming, blank]

theorem dialectOf_failed (fields : List (Codes × Json)) :
    (∃ why, dialectOf (.obj fields) = .error why ∧ why ≠ .malformed) ↔
      ∃ value, (Json.obj fields).find? dialectName = some value ∧ ¬Naming value := by
  cases found : (Json.obj fields).find? dialectName with
  | none => simp [dialectOf, found]
  | some value => simpa [dialectOf, found] using dialectNamed_failed value

-- The library fails on a document in which it cannot look for the dialect, or where it finds what
-- names none.
theorem ofJson_failed :
    (∃ why, ofJson document = .error why ∧ why ≠ .malformed) ↔
      ¬Searchable document ∨
        ∃ value, document.find? dialectName = some value ∧ ¬Naming value := by
  have early : (∃ why, ofJson document = .error why ∧ why ≠ .malformed) ↔
      ∃ why, dialectOf document = .error why ∧ why ≠ .malformed := by
    cases found : dialectOf document with
    | error why => simp [ofJson_lost found]
    | ok dialect =>
      cases formed : ofJson? dialect document with
      | none => simp [ofJson_malformed found formed]
      | some root =>
        obtain ⟨targets, taken⟩ := ofJson_formed found formed
        simp [taken]
  rw [early]
  by_cases plain : ∀ fields, document ≠ .obj fields
  · rw [find_plain plain]
    obtain ⟨found, searchable⟩ | ⟨lost, unsearchable⟩ := dialectOf_searched plain
    · simp [found, searchable]
    · simp [lost, unsearchable]
  · push Not at plain
    obtain ⟨fields, rfl⟩ := plain
    rw [dialectOf_failed]
    simp [Searchable]

end Rejections

section Libraries

variable {σ ε : Type} {library : Library σ ε}

theorem ofDocument_ok {document : Json} {schema : σ} :
    library.ofDocument document = .ok schema ↔
      document = .null ∧ schema = library.standard ∨
        document ≠ .null ∧ library.take document = .ok schema := by
  unfold Library.ofDocument
  split
  · simp [eq_comm]
  · rename_i given
    have filled : document ≠ .null := given
    cases library.take document <;> simp [Except.mapError, filled]

theorem ofDocument_error {document : Json} {e : OriginError} :
    library.ofDocument document = .error e ↔
      ∃ why, e = .rejected why ∧ document ≠ .null ∧ library.take document = .error why := by
  unfold Library.ofDocument
  split
  · simp
  · rename_i given
    have filled : document ≠ .null := given
    cases library.take document <;> simp [Except.mapError, filled, eq_comm]

structure Arranged (path : ε → List Codes) (errors arranged : List ε) : Prop where
  same : arranged.Perm errors
  sorted : arranged.Pairwise fun a b => Text.partsLe (path a) (path b) = true
  stable : ∀ place,
    arranged.filter (fun e => path e = place) = errors.filter (fun e => path e = place)

theorem arranged_sort (path : ε → List Codes) (errors : List ε) :
    Arranged path errors (errors.mergeSort fun a b => Text.partsLe (path a) (path b)) := by
  have trans (a b c : ε) : Text.partsLe (path a) (path b) = true →
      Text.partsLe (path b) (path c) = true → Text.partsLe (path a) (path c) = true :=
    Text.partsLe_trans (path a) (path b) (path c)
  have total (a b : ε) : (Text.partsLe (path a) (path b) || Text.partsLe (path b) (path a)) = true :=
    Text.partsLe_total (path a) (path b)
  have shuffled := List.mergeSort_perm errors fun a b => Text.partsLe (path a) (path b)
  refine ⟨shuffled, List.pairwise_mergeSort trans total errors, fun place => ?_⟩
  have level : (errors.filter fun e => path e = place).Pairwise fun a b =>
      Text.partsLe (path a) (path b) = true := by
    refine List.pairwise_of_forall_mem_list fun a first b second => ?_
    rw [of_decide_eq_true (List.mem_filter.mp first).2,
      of_decide_eq_true (List.mem_filter.mp second).2]
    simpa using Text.partsLe_total place place
  have kept := (List.sublist_mergeSort trans total level List.filter_sublist).filter fun e =>
    path e = place
  rw [List.filter_filter] at kept
  simp only [Bool.and_self] at kept
  exact (kept.eq_of_length (shuffled.filter _).length_eq.symm).symm

theorem ofReply_ok {address : String} {reply : Reply} {schema : σ} :
    library.ofReply address reply = .ok schema ↔
      ∃ document, reply.document address = .ok document ∧
        library.ofDocument document = .ok schema := by
  unfold Library.ofReply
  cases reply.document address <;> simp [bind, Except.bind]

theorem ofReply_error {address : String} {reply : Reply} {e : OriginError} :
    library.ofReply address reply = .error e ↔
      reply.document address = .error e ∨
        ∃ document, reply.document address = .ok document ∧
          library.ofDocument document = .error e := by
  unfold Library.ofReply
  cases reply.document address <;> simp [bind, Except.bind]

section Replies

variable {address : String} {status : Nat} {content : List UInt8}

theorem ofReply_fetch {e : FetchError} :
    library.ofReply address (.answered status content) = .error (.fetch e) ↔
      ¬Succeeds status ∧ e = .status address status ∨
        Succeeds status ∧ Garbled content ∧ e = .noDocument address := by
  simp only [ofReply_error, document_fetch, ofDocument_error, reduceCtorEq, false_and, exists_false,
    and_false, or_false]

theorem ofReply_load {e : LoadError} :
    library.ofReply address (.answered status content) = .error (.load e) ↔
      Succeeds status ∧ Unreadable content e := by
  simp only [ofReply_error, document_load, ofDocument_error, reduceCtorEq, false_and, exists_false,
    and_false, or_false]

theorem ofReply_rejected {why : Rejection} :
    library.ofReply address (.answered status content) = .error (.rejected why) ↔
      Succeeds status ∧ ∃ document, Spells content document ∧ document ≠ .null ∧
        library.take document = .error why := by
  simp only [ofReply_error, document_rejected, false_or, document_ok, ofDocument_error,
    OriginError.rejected.injEq, and_assoc, exists_and_left, exists_eq_left']

theorem ofReply_taken {schema : σ} :
    library.ofReply address (.answered status content) = .ok schema ↔
      Succeeds status ∧ ∃ document, Spells content document ∧
        (document = .null ∧ schema = library.standard ∨
          document ≠ .null ∧ library.take document = .ok schema) := by
  simp only [ofReply_ok, document_ok, ofDocument_ok, and_assoc, exists_and_left]

end Replies

-- The document taken for the schema is the one in the content, but for null, in whose place stands
-- the schema of collections. Whatever the library rejects is passed on.
theorem ofReply_settled (library : Library σ ε) (address : String) (status : Nat)
    (content : List UInt8) :
    (∀ e, library.ofReply address (.answered status content) = .error (.fetch e) ↔
      ¬Succeeds status ∧ e = .status address status ∨
        Succeeds status ∧ Garbled content ∧ e = .noDocument address) ∧
    (∀ e, library.ofReply address (.answered status content) = .error (.load e) ↔
      Succeeds status ∧ Unreadable content e) ∧
    (∀ why, library.ofReply address (.answered status content) = .error (.rejected why) ↔
      Succeeds status ∧ ∃ document, Spells content document ∧ document ≠ .null ∧
        library.take document = .error why) ∧
    (∀ schema, library.ofReply address (.answered status content) = .ok schema ↔
      Succeeds status ∧ ∃ document, Spells content document ∧
        (document = .null ∧ schema = library.standard ∨
          document ≠ .null ∧ library.take document = .ok schema)) ∧
    (∀ (said : String) document, Json.read said = .ok document → Encodes said.toList content →
      Spells content document) ∧
    ∀ schema value, ∃ arranged,
      Arranged library.path (library.errors schema value) arranged ∧
        library.messages schema value =
          arranged.map fun e => messageAt (library.path e) (library.text e) :=
  ⟨fun _ => ofReply_fetch, fun _ => ofReply_load, fun _ => ofReply_rejected,
    fun _ => ofReply_taken, fun _ _ => encoded_spells,
    fun schema value => ⟨_, arranged_sort library.path (library.errors schema value), rfl⟩⟩

def nullContent : List UInt8 := [0x6e, 0x75, 0x6c, 0x6c]

-- Null passes for the schema of collections, and a number is not told as malformed.
theorem null_replaced :
    Spells nullContent .null ∧ SchemaDocument.ofJson .null = .error .malformed ∧
      ofReply "http://h/s" (.answered 200 nullContent) = .ok Collection.schema ∧
      Spells [0x35] (.int 5) ∧
      ofReply "http://h/s" (.answered 200 [0x35]) = .error (.rejected (.unsearchable (.int 5))) := by
  have formless : ofJson? .current .null = none := by simp only [ofJson?]
  exact ⟨⟨codes "null", rfl, rfl⟩, ofJson_malformed rfl formless, rfl, ⟨codes "5", rfl, rfl⟩, rfl⟩

-- Neither the address nor a malformed schema is blamed for such an error.
def Unforeseen : OriginError → Prop
  | .fetch _ | .rejected .malformed => False
  | _ => True

theorem ofReply_unforeseen (address : String) (status : Nat) (content : List UInt8) :
    (∃ e, ofReply address (.answered status content) = .error e ∧ Unforeseen e) ↔
      Succeeds status ∧ ((∃ e, Unreadable content e) ∨
        ∃ document, Spells content document ∧ (¬Searchable document ∨
          ∃ value, document.find? dialectName = some value ∧ ¬Naming value)) := by
  constructor
  · rintro ⟨e, failed, unforeseen⟩
    cases e with
    | fetch e => exact unforeseen.elim
    | load e =>
      obtain ⟨success, unreadable⟩ := ofReply_load.mp failed
      exact ⟨success, .inl ⟨e, unreadable⟩⟩
    | rejected why =>
      obtain ⟨success, document, spells, -, taken⟩ := ofReply_rejected.mp failed
      have other : why ≠ .malformed := by
        intro same
        subst same
        exact unforeseen
      exact ⟨success, .inr ⟨document, spells, ofJson_failed.mp ⟨why, taken, other⟩⟩⟩
  · rintro ⟨success, ⟨e, unreadable⟩ | ⟨document, spells, fails⟩⟩
    · exact ⟨.load e, ofReply_load.mpr ⟨success, unreadable⟩, trivial⟩
    · obtain ⟨why, taken, other⟩ := ofJson_failed.mpr fails
      have given : document ≠ .null := by
        intro same
        subst same
        rcases fails with lost | ⟨value, found, -⟩
        · exact lost trivial
        · cases found
      refine ⟨.rejected why, ofReply_rejected.mpr ⟨success, document, spells, given, taken⟩, ?_⟩
      cases why with
      | malformed => exact absurd rfl other
      | unsearchable value => trivial
      | unaddressed value => trivial

end Libraries

end EndpointCatalog.Schema
