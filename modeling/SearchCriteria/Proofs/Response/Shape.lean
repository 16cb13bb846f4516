import Mathlib.Data.List.Forall2
import SearchCriteria.Response

/-! The shape of an answer as a relation, and the reader of answers against it. Everything that has
the shape and an identifier in each document is understood, without loss; of the rest, a fault of
the shape, which is about one of its parts, is told before any fault of an identifier, and of those
the first one. -/
namespace SearchCriteria

/-- The first has the second as its response, under that name or as its only item. -/
inductive Json.HasResponse : Json → Json → Prop
  | named {fields : NameTable Json} {body : Json} (h : fields.get? "response" = some body) :
      HasResponse (.obj fields) body
  | listed {body : Json} : HasResponse (.arr [body]) body

/-- A response that tells the number of matches and the documents, under their names or as its
two items. -/
inductive Json.HasMatches : Json → Int → List Document → Prop
  | named {fields : NameTable Json} {total : Int} {docs : List Document}
      (htotal : fields.get? "numFound" = some (.int total))
      (hdocs : fields.get? "docs" = some (.arr (docs.map .obj))) :
      HasMatches (.obj fields) total docs
  | listed {total : Int} {docs : List Document} :
      HasMatches (.arr [.int total, .arr (docs.map .obj)]) total docs

/-- An answer of the right shape: its number of matches fits 64 bits, its documents are objects. -/
structure Json.IsAnswer (answer : Json) (total : Int) (docs : List Document) : Prop where
  nonneg : 0 ≤ total
  le_max : total ≤ 18446744073709551615
  body : ∃ body, answer.HasResponse body ∧ body.HasMatches total docs

def Document.HasId (doc : Document) (id : String) : Prop := doc.get? "id" = some (.str id)

/-- What is wrong with a document that has no identifier, or one that is no text. -/
inductive Document.HasFault (doc : Document) (position : Nat) : ResponseFault → Prop
  | missing (h : doc.get? "id" = none) : HasFault doc position (.missingId position)
  | foreign {value : Json} (h : doc.get? "id" = some value) (hvalue : ∀ id, value ≠ .str id) :
      HasFault doc position (.foreignId position value)

theorem Json.count?_eq_some_iff {j : Json} {n : UInt64} :
    j.count? = some n ↔ j = .int n.toNat := by
  constructor
  · intro h
    cases j with
    | int m =>
      simp only [count?, Bool.and_eq_true, decide_eq_true_eq, Option.ite_none_right_eq_some,
        Option.some.injEq] at h
      obtain ⟨⟨hnonneg, hlt⟩, rfl⟩ := h
      have hsmall : m.toNat < UInt64.size := by omega
      rw [UInt64.toNat_ofNat_of_lt' hsmall, Int.toNat_of_nonneg hnonneg]
    | _ => cases h
  · rintro rfl
    exact count?_count n

/-- A value, the value of one of its fields or items, and so on. -/
inductive Json.HasPart (part : Json) : Json → Prop
  | whole : HasPart part part
  | field {fields : NameTable Json} {name : String} {j : Json} (hj : fields.get? name = some j)
      (h : HasPart part j) : HasPart part (.obj fields)
  | item {items : List Json} {j : Json} (hj : j ∈ items) (h : HasPart part j) :
      HasPart part (.arr items)

/-- What a fault says of the value that it is about. -/
def ShapeFault.Describes (part : Json) : ShapeFault → Prop
  | .kind found _ => part = found
  | .range found _ => part = found ∧ part.count? = none
  | .missing name => ∃ fields : NameTable Json, part = .obj fields ∧ fields.get? name = none
  | .length count _ => ∃ items, part = .arr items ∧ items.length = count

def ShapeFault.IsIn (fault : ShapeFault) (j : Json) : Prop :=
  ∃ part, Json.HasPart part j ∧ fault.Describes part

namespace ShapeFault.IsIn

variable {fault : ShapeFault}

theorem of_error {α : Type} {told : ShapeFault} {j : Json}
    (h : (.error told : Except ShapeFault α) = .error fault) (hj : told.Describes j) :
    fault.IsIn j := by
  obtain rfl := Except.error.inj h
  exact ⟨j, .whole, hj⟩

theorem field {fields : NameTable Json} {name : String} {j : Json}
    (hj : fields.get? name = some j) (h : fault.IsIn j) : fault.IsIn (.obj fields) := by
  obtain ⟨part, hpart, hfault⟩ := h
  exact ⟨part, .field hj hpart, hfault⟩

theorem item {items : List Json} {j : Json} (hj : j ∈ items) (h : fault.IsIn j) :
    fault.IsIn (.arr items) := by
  obtain ⟨part, hpart, hfault⟩ := h
  exact ⟨part, .item hj hpart, hfault⟩

end ShapeFault.IsIn

namespace ParsedResponse

theorem bind_eq_ok_iff {ε α β : Type} {x : Except ε α} {f : α → Except ε β} {b : β} :
    (x >>= f) = .ok b ↔ ∃ a, x = .ok a ∧ f a = .ok b := by
  cases x <;> simp [bind, Except.bind]

theorem bind_eq_error_iff {ε α β : Type} {x : Except ε α} {f : α → Except ε β} {e : ε} :
    (x >>= f) = .error e ↔ x = .error e ∨ ∃ a, x = .ok a ∧ f a = .error e := by
  cases x <;> simp [bind, Except.bind]

theorem exists_mem_of_mapM_eq_error {α β ε : Type} {f : α → Except ε β} {xs : List α} {e : ε}
    (h : xs.mapM f = .error e) : ∃ x ∈ xs, f x = .error e := by
  induction xs with
  | nil => cases h
  | cons x xs ih =>
    rw [List.mapM_cons, bind_eq_error_iff] at h
    rcases h with h | ⟨_, -, h⟩
    · exact ⟨x, List.mem_cons_self, h⟩
    · rcases bind_eq_error_iff.1 h with h | ⟨_, -, h⟩
      · obtain ⟨y, hy, hfault⟩ := ih h
        exact ⟨y, List.mem_cons_of_mem _ hy, hfault⟩
      · cases h

theorem readTotal_eq_ok_iff {j : Json} {n : UInt64} :
    readTotal j = .ok n ↔ j = .int n.toNat := by
  rw [← Json.count?_eq_some_iff]
  unfold readTotal
  split <;> simp_all

theorem readDocument_eq_ok_iff {j : Json} {doc : Document} :
    readDocument j = .ok doc ↔ j = .obj doc := by
  cases j <;> simp [readDocument]

theorem mapM_readDocument_eq_ok_iff {items : List Json} {docs : List Document} :
    items.mapM readDocument = .ok docs ↔ items = docs.map .obj := by
  induction items generalizing docs with
  | nil => cases docs <;> simp [pure, Except.pure]
  | cons j items ih =>
    simp only [List.mapM_cons, bind_eq_ok_iff, readDocument_eq_ok_iff, ih]
    constructor
    · rintro ⟨doc, rfl, rest, rfl, h⟩
      obtain rfl := Except.ok.inj h
      rfl
    · intro h
      cases docs with
      | nil => cases h
      | cons doc docs =>
        obtain ⟨rfl, rfl⟩ := List.cons.inj h
        exact ⟨doc, rfl, docs, rfl, rfl⟩

theorem readDocuments_eq_ok_iff {j : Json} {docs : List Document} :
    readDocuments j = .ok docs ↔ j = .arr (docs.map .obj) := by
  cases j <;> simp [readDocuments, mapM_readDocument_eq_ok_iff]

theorem unlessLeft_eq_ok_iff {α : Type} {a b : α} {read : Nat} {left : List Json} :
    unlessLeft a read left = .ok b ↔ left = [] ∧ a = b := by
  cases left <;> simp [unlessLeft]

/-- A field that may be missing, where the field is read if it is there. -/
theorem mapM_eq_ok_some_iff {α : Type} {f : Json → Except ShapeFault α} {field : Option Json}
    {a : α} : field.mapM f = .ok (some a) ↔ ∃ j, field = some j ∧ f j = .ok a := by
  cases field with
  | none => simp [Option.mapM_none, pure, Except.pure]
  | some j => cases hj : f j <;> simp [Option.mapM_some, hj, Functor.map, Except.map]

theorem mapM_eq_ok_none_iff {α : Type} {f : Json → Except ShapeFault α} {field : Option Json} :
    field.mapM f = .ok none ↔ field = none := by
  cases field with
  | none => simp [Option.mapM_none, pure, Except.pure]
  | some j => cases hj : f j <;> simp [Option.mapM_some, hj, Functor.map, Except.map]

theorem mapM_eq_error_iff {α : Type} {f : Json → Except ShapeFault α} {field : Option Json}
    {fault : ShapeFault} :
    field.mapM f = .error fault ↔ ∃ j, field = some j ∧ f j = .error fault := by
  cases field with
  | none => simp [Option.mapM_none, pure, Except.pure]
  | some j => cases hj : f j <;> simp [Option.mapM_some, hj, Functor.map, Except.map]

theorem readBody_eq_ok_iff {body : Json} {total : UInt64} {docs : List Document} :
    readBody body = .ok (total, docs) ↔ body.HasMatches total.toNat docs := by
  constructor
  · intro h
    unfold readBody at h
    split at h
    · simp only [bind_eq_ok_iff] at h
      obtain ⟨readDocs, hdocs, readTotals, htotal, h⟩ := h
      split at h
      · cases h
      · cases h
      · obtain ⟨rfl, rfl⟩ := Prod.mk.inj (Except.ok.inj h)
        obtain ⟨j, hj, htotal⟩ := mapM_eq_ok_some_iff.1 htotal
        obtain ⟨k, hk, hdocs⟩ := mapM_eq_ok_some_iff.1 hdocs
        rw [readTotal_eq_ok_iff] at htotal
        rw [readDocuments_eq_ok_iff] at hdocs
        subst htotal hdocs
        exact .named hj hk
    · cases h
    · obtain ⟨_, -, h⟩ := bind_eq_ok_iff.1 h
      cases h
    · simp only [bind_eq_ok_iff, unlessLeft_eq_ok_iff, readTotal_eq_ok_iff,
        readDocuments_eq_ok_iff] at h
      obtain ⟨_, rfl, _, rfl, rfl, h⟩ := h
      obtain ⟨rfl, rfl⟩ := Prod.mk.inj h
      exact .listed
    · cases h
  · rintro (⟨htotal, hdocs⟩ | _)
    · have hreadDocs := mapM_eq_ok_some_iff.2 ⟨_, hdocs, readDocuments_eq_ok_iff.2 rfl⟩
      have hreadTotal := mapM_eq_ok_some_iff.2 ⟨_, htotal, readTotal_eq_ok_iff.2 rfl⟩
      simp only [readBody, bind_eq_ok_iff]
      exact ⟨_, hreadDocs, _, hreadTotal, rfl⟩
    · simp only [readBody, bind_eq_ok_iff, unlessLeft_eq_ok_iff, readTotal_eq_ok_iff,
        readDocuments_eq_ok_iff]
      exact ⟨total, rfl, docs, rfl, trivial, rfl⟩

/-- The reader finds the parts of exactly the answers that have the shape. -/
theorem readAnswer_eq_ok_iff {answer : Json} {total : UInt64} {docs : List Document} :
    readAnswer answer = .ok (total, docs) ↔ answer.IsAnswer total.toNat docs := by
  have hlt := total.toNat_lt
  constructor
  · intro h
    suffices hbody : ∃ body, answer.HasResponse body ∧ body.HasMatches total.toNat docs from
      ⟨by omega, by omega, hbody⟩
    unfold readAnswer at h
    split at h
    · split at h
      · next body hbody => exact ⟨body, .named hbody, readBody_eq_ok_iff.1 h⟩
      · cases h
    · cases h
    · next body left =>
      simp only [bind_eq_ok_iff, unlessLeft_eq_ok_iff] at h
      obtain ⟨_, hbody, rfl, rfl⟩ := h
      exact ⟨body, .listed, readBody_eq_ok_iff.1 hbody⟩
    · cases h
  · rintro ⟨-, -, body, hresponse | _, hmatches⟩
    · simp only [readAnswer, hresponse]
      exact readBody_eq_ok_iff.2 hmatches
    · simp only [readAnswer, bind_eq_ok_iff, unlessLeft_eq_ok_iff]
      exact ⟨_, readBody_eq_ok_iff.2 hmatches, trivial, rfl⟩

theorem idAt_eq_ok_iff {position : Nat} {doc : Document} {id : String} :
    idAt position doc = .ok id ↔ doc.HasId id := by
  unfold idAt Document.HasId
  split <;> simp_all

theorem idAt_eq_error_iff {position : Nat} {doc : Document} {fault : ResponseFault} :
    idAt position doc = .error fault ↔ doc.HasFault position fault := by
  constructor
  · intro h
    unfold idAt at h
    split at h
    · cases h
    · next value hvalue hid =>
      obtain rfl := Except.error.inj h
      exact .foreign hid hvalue
    · next hid =>
      obtain rfl := Except.error.inj h
      exact .missing hid
  · rintro (hid | ⟨hid, hvalue⟩)
    · simp [idAt, hid]
    · unfold idAt
      rw [hid]
      split
      · next id heq => exact absurd (Option.some.inj heq) (hvalue id)
      · next heq => rw [Option.some.inj heq]
      · next heq => cases heq

theorem idsFrom_eq_ok_iff {position : Nat} {docs : List Document} {ids : List String} :
    idsFrom position docs = .ok ids ↔ List.Forall₂ Document.HasId docs ids := by
  induction docs generalizing position ids with
  | nil => cases ids <;> simp [idsFrom]
  | cons doc docs ih =>
    constructor
    · intro h
      unfold idsFrom at h
      cases hid : idAt position doc with
      | error fault => simp [hid] at h
      | ok id =>
        cases hids : idsFrom (position + 1) docs with
        | error fault => simp [hid, hids] at h
        | ok rest =>
          simp only [hid, hids, Except.ok.injEq] at h
          subst h
          exact .cons (idAt_eq_ok_iff.1 hid) (ih.1 hids)
    · rintro (_ | ⟨hid, hids⟩)
      simp [idsFrom, idAt_eq_ok_iff.2 hid, ih.2 hids]

/-- The reader stops at the first document without a good identifier. -/
theorem idsFrom_eq_error_iff {position : Nat} {docs : List Document} {fault : ResponseFault} :
    idsFrom position docs = .error fault ↔
      ∃ (earlier : List Document) (doc : Document) (later : List Document),
        docs = earlier ++ doc :: later ∧ (∀ d ∈ earlier, ∃ id, d.HasId id) ∧
        doc.HasFault (position + earlier.length) fault := by
  induction docs generalizing position with
  | nil => simp [idsFrom]
  | cons first docs ih =>
    constructor
    · intro h
      unfold idsFrom at h
      cases hfirst : idAt position first with
      | error fault' =>
        obtain rfl : fault' = fault := by simpa [hfirst] using h
        exact ⟨[], first, docs, rfl, by simp, idAt_eq_error_iff.1 hfirst⟩
      | ok id =>
        cases hrest : idsFrom (position + 1) docs with
        | ok ids => simp [hfirst, hrest] at h
        | error fault' =>
          obtain rfl : fault' = fault := by simpa [hfirst, hrest] using h
          obtain ⟨earlier, doc, later, rfl, hearlier, hfault⟩ := ih.1 hrest
          refine ⟨first :: earlier, doc, later, rfl, ?_, ?_⟩
          · exact List.forall_mem_cons.2 ⟨⟨id, idAt_eq_ok_iff.1 hfirst⟩, hearlier⟩
          · rwa [List.length_cons, Nat.add_comm earlier.length, ← Nat.add_assoc]
    · rintro ⟨earlier, doc, later, hdocs, hearlier, hfault⟩
      cases earlier with
      | nil =>
        obtain ⟨rfl, rfl⟩ := List.cons.inj hdocs
        have hfirst : idAt position first = .error fault := idAt_eq_error_iff.2 hfault
        simp [idsFrom, hfirst]
      | cons d earlier =>
        obtain ⟨rfl, rfl⟩ := List.cons.inj hdocs
        obtain ⟨⟨id, hid⟩, hearlier⟩ := List.forall_mem_cons.1 hearlier
        have hfirst : idAt position first = .ok id := idAt_eq_ok_iff.2 hid
        have hrest : idsFrom (position + 1) (earlier ++ doc :: later) = .error fault := by
          refine ih.2 ⟨earlier, doc, later, rfl, hearlier, ?_⟩
          rwa [List.length_cons, Nat.add_comm earlier.length, ← Nat.add_assoc] at hfault
        simp [idsFrom, hfirst, hrest]

theorem parse_eq_ok_iff {answer : Json} {p : ParsedResponse} :
    parse answer = .ok p ↔
      answer.IsAnswer p.total.toNat p.docs ∧ List.Forall₂ Document.HasId p.docs p.ids := by
  rw [← readAnswer_eq_ok_iff, ← @idsFrom_eq_ok_iff 0]
  constructor
  · intro h
    unfold parse at h
    split at h
    · cases h
    · next total docs hshape =>
      cases hids : idsFrom 0 docs with
      | error fault => simp [hids, Except.map] at h
      | ok ids =>
        obtain rfl : { total, docs, ids } = p := by simpa [hids, Except.map] using h
        exact ⟨hshape, hids⟩
  · rintro ⟨hshape, hids⟩
    simp [parse, hshape, hids, Except.map]

section Fault

variable {fault : ShapeFault}

theorem isIn_of_readTotal {j : Json} (h : readTotal j = .error fault) : fault.IsIn j := by
  unfold readTotal at h
  split at h
  · cases h
  · next hcount => exact .of_error h ⟨rfl, hcount⟩
  · exact .of_error h rfl

theorem isIn_of_readDocument {j : Json} (h : readDocument j = .error fault) : fault.IsIn j := by
  cases j with
  | obj fields => cases h
  | _ => exact .of_error h rfl

theorem isIn_of_readDocuments {j : Json} (h : readDocuments j = .error fault) :
    fault.IsIn j := by
  cases j with
  | arr items =>
    obtain ⟨k, hk, hfault⟩ := exists_mem_of_mapM_eq_error h
    exact .item hk (isIn_of_readDocument hfault)
  | _ => exact .of_error h rfl

theorem isIn_of_unlessLeft {α : Type} {a : α} (read : List Json) {left : List Json}
    (h : unlessLeft a read.length left = .error fault) : fault.IsIn (.arr (read ++ left)) := by
  cases left with
  | nil => cases h
  | cons j left => exact .of_error h ⟨_, rfl, List.length_append⟩

theorem isIn_of_readBody {body : Json} (h : readBody body = .error fault) : fault.IsIn body := by
  unfold readBody at h
  split at h
  · next fields =>
    rcases bind_eq_error_iff.1 h with h | ⟨docs, hdocs, h⟩
    · obtain ⟨j, hj, hfault⟩ := mapM_eq_error_iff.1 h
      exact .field hj (isIn_of_readDocuments hfault)
    · rcases bind_eq_error_iff.1 h with h | ⟨total, htotal, h⟩
      · obtain ⟨j, hj, hfault⟩ := mapM_eq_error_iff.1 h
        exact .field hj (isIn_of_readTotal hfault)
      · split at h
        · exact .of_error h ⟨fields, rfl, mapM_eq_ok_none_iff.1 htotal⟩
        · exact .of_error h ⟨fields, rfl, mapM_eq_ok_none_iff.1 hdocs⟩
        · cases h
  · exact .of_error h ⟨[], rfl, rfl⟩
  · next total =>
    rcases bind_eq_error_iff.1 h with h | ⟨_, -, h⟩
    · exact .item List.mem_cons_self (isIn_of_readTotal h)
    · exact .of_error h ⟨[total], rfl, rfl⟩
  · next total docs left =>
    rcases bind_eq_error_iff.1 h with h | ⟨_, -, h⟩
    · exact .item List.mem_cons_self (isIn_of_readTotal h)
    · rcases bind_eq_error_iff.1 h with h | ⟨_, -, h⟩
      · exact .item (List.mem_cons_of_mem _ List.mem_cons_self) (isIn_of_readDocuments h)
      · exact isIn_of_unlessLeft [total, docs] h
  · exact .of_error h rfl

theorem isIn_of_readAnswer {answer : Json} (h : readAnswer answer = .error fault) :
    fault.IsIn answer := by
  unfold readAnswer at h
  split at h
  · next fields =>
    split at h
    · next body hbody => exact .field hbody (isIn_of_readBody h)
    · next hbody => exact .of_error h ⟨fields, rfl, hbody⟩
  · exact .of_error h ⟨[], rfl, rfl⟩
  · next body left =>
    rcases bind_eq_error_iff.1 h with h | ⟨_, -, h⟩
    · exact .item List.mem_cons_self (isIn_of_readBody h)
    · exact isIn_of_unlessLeft [body] h
  · exact .of_error h rfl

/-- The fault that an answer is refused for is about one of its parts. -/
theorem isIn_of_parse {answer : Json} (h : parse answer = .error (.malformed fault)) :
    fault.IsIn answer := by
  unfold parse at h
  split at h
  · next hread =>
    obtain rfl := ResponseFault.malformed.inj (Except.error.inj h)
    exact isIn_of_readAnswer hread
  · next total docs _ =>
    cases hids : idsFrom 0 docs with
    | ok ids => simp [hids, Except.map] at h
    | error other =>
      obtain ⟨_, _, _, -, -, hfault⟩ := idsFrom_eq_error_iff.1 hids
      obtain rfl : other = .malformed fault := by simpa [hids, Except.map] using h
      cases hfault

end Fault

end ParsedResponse
end SearchCriteria
