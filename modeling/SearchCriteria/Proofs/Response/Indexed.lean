import SearchCriteria.Proofs.Cache.Run
import SearchCriteria.Proofs.Response.Shape
import SearchCriteria.World

/-! What is indexed is read back. The document of a record has its attributes but for the nulls, and
the identifier of the record whatever attribute had that name; that is all that the reader of
answers asks of a document. A record without attributes has no document and sends none. -/
namespace SearchCriteria

def Json.answer (total : UInt64) (docs : List Document) : Json :=
  .obj [("response", .obj [("docs", .arr (docs.map .obj)), ("numFound", count total)])]

theorem Json.isAnswer_answer (total : UInt64) (docs : List Document) :
    (answer total docs).IsAnswer total.toNat docs := by
  have hlt := total.toNat_lt
  exact ⟨by omega, by omega, _, .named rfl, .named rfl rfl⟩

namespace Document

/-- The document of a record with this identifier and these attributes. -/
structure Indexes (doc : Document) (id : String) (fields : NameTable Json) : Prop where
  sorted : doc.Sorted
  mem_iff : ∀ name value, (name, value) ∈ doc ↔
    name = "id" ∧ value = .str id ∨ name ≠ "id" ∧ value ≠ .null ∧ (name, value) ∈ fields

variable {record : SavedRecord} {fields : NameTable Json}

theorem ofRecord_obj (h : record.attributes = .ok (.obj fields)) :
    ofRecord record = .ok (withId record.id (withoutNulls fields)) := by
  rw [ofRecord, h]

theorem indexes_withId (h : fields.Sorted) (id : String) :
    (withId id (withoutNulls fields)).Indexes id fields := by
  have hkept : NameTable.Sorted (withoutNulls fields) := h.filter _
  refine ⟨hkept.set "id" (.str id), fun name value => ?_⟩
  have hmem : (name, value) ∈ withoutNulls fields ↔ value ≠ .null ∧ (name, value) ∈ fields := by
    cases value <;> simp [withoutNulls, Json.isNull]
  rw [withId, hkept.mem_set, hmem]

theorem hasId_of_ofRecord {doc : Document} (h : ofRecord record = .ok doc) :
    doc.HasId record.id := by
  unfold ofRecord at h
  split at h
  · obtain rfl := Except.ok.inj h
    rw [HasId, withId, NameTable.get?_set, if_pos rfl]
  · cases h
  · cases h

theorem ofRecord_error (h : ∀ fields, record.attributes ≠ .ok (.obj fields)) :
    ∃ detail, ofRecord record = .error (.other detail) := by
  unfold ofRecord
  split
  · next fields heq => exact absurd heq (h fields)
  · exact ⟨_, rfl⟩
  · exact ⟨_, rfl⟩

/-- Documents are understood, however they are chosen and ordered. -/
theorem parse_answer {chosen : List (SavedRecord × Document)}
    (h : ∀ e ∈ chosen, ofRecord e.1 = .ok e.2) (total : UInt64) :
    ParsedResponse.parse (.answer total (chosen.map Prod.snd)) =
      .ok ⟨total, chosen.map Prod.snd, chosen.map fun e => e.1.id⟩ := by
  rw [ParsedResponse.parse_eq_ok_iff]
  refine ⟨Json.isAnswer_answer total _, ?_⟩
  rw [List.forall₂_map_left_iff, List.forall₂_map_right_iff, List.forall₂_same]
  exact fun e he => hasId_of_ofRecord (h e he)

end Document

theorem Criteria.reads_answer {σ : Type} {s : Service σ} {c : Criteria} {st after : σ} {raw : Json}
    {p : ParsedResponse} (hfresh : c.cache = {}) (hb : c.query.isBlank = false)
    (hsearch : s.search c.model c.selector c.effectiveOptions st = (.ok raw, after))
    (hp : ParsedResponse.parse raw = .ok p) :
    (c.total s st).result = .ok p.total ∧ (c.hits s st).result = .ok p.docs ∧
      (c.documentIds s st).result = .ok p.ids := by
  have hparsed : (c.parsed s st).result = .ok p := by
    rw [parsed_fresh (by rw [hfresh]), ensureResponse_fresh (by rw [hfresh]),
      execute_ok hb hsearch]
    exact congrArg Reading.result (understand_ok hp s _ after)
  simp [total, hits, documentIds, Reading.map, hparsed, Except.map]

namespace World

/-- Indexes saved records one after another; one that is refused stops none of the others. -/
def indexAll (m : Model) (records : List SavedRecord) (w : World) : World :=
  records.foldl (fun w record => (w.index m record).2) w

variable {m : Model} {w : World}

theorem state_update (hm : m.id < w.models.length) (f : ModelState → ModelState) :
    (w.update m f).state m = f (w.state m) := by
  simp [update, state, hm]

theorem index_error {record : SavedRecord} {e : BackendError}
    (h : Document.ofRecord record = .error e) : w.index m record = (.error e, w) := by
  rw [index, h]

theorem index_ok {record : SavedRecord} {doc : Document}
    (h : Document.ofRecord record = .ok doc) :
    w.index m record = (.ok (), (w.log (.indexing m.collection record.id)).update m fun s =>
      { s with backend := s.backend.index m.collection doc }) := by
  rw [index, h]

theorem length_index (record : SavedRecord) :
    (w.index m record).2.models.length = w.models.length := by
  cases h : Document.ofRecord record with
  | error e => rw [index_error h]
  | ok doc => rw [index_ok h]; simp [update, log]

theorem indexed_index (hm : m.id < w.models.length) (record : SavedRecord) :
    ((w.index m record).2.state m).backend.indexed = (w.state m).backend.indexed ++
      (Document.ofRecord record).toOption.toList.map fun doc => (m.collection, doc) := by
  cases h : Document.ofRecord record with
  | error e =>
    rw [index_error h]
    exact (List.append_nil _).symm
  | ok doc =>
    have hlogged : m.id < (w.log (.indexing m.collection record.id)).models.length := hm
    rw [index_ok h]
    exact congrArg (fun s : ModelState => s.backend.indexed) (state_update hlogged _)

/-- What saved records send to the backend: the documents of those that have one, in order. -/
theorem indexed_indexAll (hm : m.id < w.models.length) (records : List SavedRecord) :
    ((w.indexAll m records).state m).backend.indexed = (w.state m).backend.indexed ++
      (records.filterMap fun record => (Document.ofRecord record).toOption).map
        fun doc => (m.collection, doc) := by
  induction records generalizing w with
  | nil => simp [indexAll]
  | cons record records ih =>
    have hrest := ih (w := (w.index m record).2) (by rwa [length_index])
    rw [indexed_index hm record] at hrest
    rw [indexAll, List.foldl_cons, ← indexAll, hrest]
    cases h : Document.ofRecord record <;> simp [h, Except.toOption]

/-- The backend of a model gets the documents of the saved records that have attributes, in order
and nothing else. Answers made of such documents are read back as they are. -/
theorem indexed_read_back (hm : m.id < w.models.length) :
    (∀ record fields, record.attributes = .ok (.obj fields) → NameTable.Sorted fields →
      ∃ doc, Document.ofRecord record = .ok doc ∧ doc.Indexes record.id fields ∧
        (w.index m record).1 = .ok ()) ∧
    (∀ record, (∀ fields, record.attributes ≠ .ok (.obj fields)) →
      ∃ detail, Document.ofRecord record = .error (.other detail) ∧
        w.index m record = (.error (.other detail), w)) ∧
    (∀ records, ((w.indexAll m records).state m).backend.indexed =
      (w.state m).backend.indexed ++
        (records.filterMap fun record => (Document.ofRecord record).toOption).map
          fun doc => (m.collection, doc)) ∧
    -- An answer may choose documents freely, repeat them and change their order.
    ∀ saved : List (SavedRecord × Document), (∀ e ∈ saved, Document.ofRecord e.1 = .ok e.2) →
      ∀ chosen ⊆ saved, ∀ total : UInt64,
        let answer := Json.answer total (chosen.map Prod.snd)
        let docs := chosen.map Prod.snd
        let ids := chosen.map fun e => e.1.id
        ParsedResponse.parse answer = .ok ⟨total, docs, ids⟩ ∧
        ∀ {σ : Type} (s : Service σ) (c : Criteria) (st after : σ), c.cache = {} →
          c.query.isBlank = false →
          s.search c.model c.selector c.effectiveOptions st = (.ok answer, after) →
          (c.total s st).result = .ok total ∧ (c.hits s st).result = .ok docs ∧
            (c.documentIds s st).result = .ok ids := by
  refine ⟨fun record fields hfields hsorted => ?_, fun record hnone => ?_, indexed_indexAll hm,
    fun saved hsaved chosen hchosen total => ?_⟩
  · have hdoc := Document.ofRecord_obj hfields
    refine ⟨_, hdoc, Document.indexes_withId hsorted record.id, ?_⟩
    rw [index_ok hdoc]
  · obtain ⟨detail, herror⟩ := Document.ofRecord_error hnone
    exact ⟨detail, herror, index_error herror⟩
  · have hparse := Document.parse_answer (fun e he => hsaved e (hchosen he)) total
    exact ⟨hparse, fun s c st after hfresh hb hsearch =>
      Criteria.reads_answer hfresh hb hsearch hparse⟩

/-- Two products, one with a number and one with null as its identifier, and a mere text. -/
theorem indexed_read_back_shirt :
    let products : Model := { id := 0, collection := "products" }
    let w : World := { models := [{ model := products }] }
    let shirt : SavedRecord := ⟨"7", .ok (.obj [("id", .int 3), ("size", .null),
      ("tags", .arr [.null, .str "new"])])⟩
    let pants : SavedRecord := ⟨"8", .ok (.obj [("id", .null), ("name", .str "Pants")])⟩
    let tag : SavedRecord := ⟨"red", .ok (.str "red")⟩
    let shirtDoc : Document := [("id", .str "7"), ("tags", .arr [.null, .str "new"])]
    let pantsDoc : Document := [("id", .str "8"), ("name", .str "Pants")]
    shirtDoc.Indexes "7" [("id", .int 3), ("size", .null), ("tags", .arr [.null, .str "new"])] ∧
    (∃ detail, w.index products tag = (.error (.other detail), w)) ∧
    ((w.indexAll products [shirt, tag, pants]).state products).backend.indexed =
      [("products", shirtDoc), ("products", pantsDoc)] ∧
    ParsedResponse.parse (.answer 12 [pantsDoc, shirtDoc]) =
      .ok ⟨12, [pantsDoc, shirtDoc], ["8", "7"]⟩ := by
  intro products w shirt pants tag shirtDoc pantsDoc
  obtain ⟨hindexes, hrefused, hsent, hread⟩ :=
    indexed_read_back (m := products) (w := w) (by decide)
  have hshirt : Document.ofRecord shirt = .ok shirtDoc := rfl
  have hpants : Document.ofRecord pants = .ok pantsDoc := rfl
  refine ⟨?_, ?_, hsent [shirt, tag, pants], ?_⟩
  · obtain ⟨doc, hdoc, hall, -⟩ := hindexes shirt _ rfl (by decide +kernel)
    rwa [Except.ok.inj (hshirt.symm.trans hdoc)]
  · obtain ⟨detail, -, hindex⟩ := hrefused tag fun fields h => by cases h
    exact ⟨detail, hindex⟩
  · have hsaved : ∀ e ∈ [(shirt, shirtDoc), (pants, pantsDoc)],
        Document.ofRecord e.1 = .ok e.2 := by
      intro e he
      rcases List.mem_pair.1 he with rfl | rfl
      · exact hshirt
      · exact hpants
    exact (hread _ hsaved [(pants, pantsDoc), (shirt, shirtDoc)] (by simp) 12).1

end World
end SearchCriteria
