import SearchCriteria.Proofs.Cache.Coherence

/-! Why reads fail. A read that gives up reports one failure, to its caller and to the outside: its
search or its fetch was answered with an error, or an answer was not understood. The errors pass
through several layers of reading, none of which reports them again. -/
namespace SearchCriteria

structure Fault where
  collection : String
  selector : String
  reason : String
  deriving DecidableEq

/-- What the caller is told of a failure; that nothing restricts a search is none. -/
def Fault.of? {α : Type} (collection selector : String) : Except CriteriaError α → Option Fault
  | .error (.queryFailed reason) => some ⟨collection, selector, reason⟩
  | _ => none

theorem Fault.collection_eq {α : Type} {collection selector : String}
    {result : Except CriteriaError α} {fault : Fault}
    (h : Fault.of? collection selector result = some fault) : fault.collection = collection := by
  unfold Fault.of? at h
  split at h
  · obtain rfl := Option.some.inj h
    rfl
  · cases h

namespace Event

def searchedOn (collection : String) (ok : Bool) : Event → Bool
  | searched call answer => call.collection = collection && answer.isOk = ok
  | _ => false

def fetchedOn (collection : String) (ok : Bool) : Event → Bool
  | fetched asked _ answer => asked = collection && answer.isOk = ok
  | _ => false

def fault? : Event → Option Fault
  | failed collection selector reason => some ⟨collection, selector, reason⟩
  | _ => none

end Event

namespace History

def faults (h : History) : List Fault := h.reverse.filterMap Event.fault?

def lapses (h : History) (collection : String) : Nat :=
  h.countP (Event.searchedOn collection false) + h.countP (Event.fetchedOn collection false)

@[simp] theorem faults_cons (e : Event) (h : History) :
    faults (e :: h) = h.faults ++ e.fault?.toList := by
  cases he : e.fault? <;> simp [faults, he]

theorem countP_cons (p : Event → Bool) (e : Event) (h : History) :
    List.countP p (e :: h) = List.countP p h + (p e).toNat := by
  rw [List.countP_cons]
  cases p e <;> rfl

@[simp] theorem lapses_cons (e : Event) (h : History) (collection : String) :
    lapses (e :: h) collection = h.lapses collection +
      ((e.searchedOn collection false).toNat + (e.fetchedOn collection false).toNat) := by
  rw [lapses, lapses, countP_cons, countP_cons]
  omega

end History

/-- The reading, which began at `st`, told the outside just what its result tells, and it tells of a
failure because of one error that was answered, or because an answer was rejected. -/
structure Reading.Accounted {σ α : Type} (r : Reading (History × σ) α)
    (collection selector : String) (st : History × σ) (rejected : Bool) : Prop where
  faults : r.state.1.faults = st.1.faults ++ (Fault.of? collection selector r.result).toList
  causes : ∀ k, st.1.lapses k +
      (collection = k && (Fault.of? collection selector r.result).isSome).toNat =
    r.state.1.lapses k + (collection = k && rejected).toNat

namespace Reading.Accounted

variable {σ α β : Type} {r : Reading (History × σ) α} {collection selector : String}
  {st : History × σ} {rejected : Bool}

theorem ok {a : α} {c : Criteria} :
    (⟨.ok a, c, st⟩ : Reading (History × σ) α).Accounted collection selector st false :=
  ⟨by simp [Fault.of?], by simp [Fault.of?]⟩

theorem of_fault_eq {r' : Reading (History × σ) β}
    (h : r.Accounted collection selector st rejected)
    (hfault : Fault.of? collection selector r'.result = Fault.of? collection selector r.result)
    (hstate : r'.state = r.state) : r'.Accounted collection selector st rejected := by
  constructor
  · rw [hstate, hfault]
    exact h.faults
  · rw [hstate, hfault]
    exact h.causes

theorem map (h : r.Accounted collection selector st rejected) (f : α → β) :
    (r.map f).Accounted collection selector st rejected := by
  refine h.of_fault_eq ?_ rfl
  cases hr : r.result with
  | ok a => simp [hr, Except.map, Fault.of?]
  | error e => cases e <;> simp [hr, Except.map, Fault.of?]

theorem bind {f : α → Criteria → History × σ → Reading (History × σ) β} {early : Bool}
    (h : r.Accounted collection selector st early)
    (hok : ∀ a, r.result = .ok a → early = false ∧
      (f a r.criteria r.state).Accounted collection selector r.state rejected)
    (herror : ∀ e, r.result = .error e → early = rejected) :
    (r.bind f).Accounted collection selector st rejected := by
  cases hr : r.result with
  | ok a =>
    obtain ⟨rfl, hrest⟩ := hok a hr
    -- A result is no failure: so far nothing was told, and no request was answered with an error.
    have hfaults := h.faults
    have hcauses := h.causes
    rw [hr] at hfaults hcauses
    rw [bind_ok hr]
    refine ⟨hrest.faults.trans ?_, fun k => ?_⟩
    · rw [hfaults]
      simp [Fault.of?]
    · have hnone : st.1.lapses k = r.state.1.lapses k := by simpa [Fault.of?] using hcauses k
      rw [hnone]
      exact hrest.causes k
  | error e =>
    obtain rfl := herror e hr
    rw [bind_error hr]
    refine h.of_fault_eq ?_ rfl
    rw [hr]
    cases e <;> rfl

end Reading.Accounted

namespace Criteria

variable {σ : Type}

/-- Whether the answer at hand, or that of a new search, is looked at and not understood. -/
def rejectsAnswer (s : Service σ) (c : Criteria) (st : σ) : Bool :=
  c.cache.parsed.isNone &&
    match (c.ensureResponse s st).result with
    | .ok raw => !(ParsedResponse.parse raw).isOk
    | .error _ => false

/-- Whether a read rejects an answer. An explicit search does not look at its answer, and records
that were found before need none. -/
def rejects (s : Service σ) (c : Criteria) (st : σ) : ReadKind → Bool
  | .execute => false
  | .documents => c.cache.documents.isNone && c.rejectsAnswer s st
  | _ => c.rejectsAnswer s st

theorem rejectsAnswer_of_ok {s : Service σ} {c : Criteria} {st : σ} {p : ParsedResponse}
    (h : (c.parsed s st).result = .ok p) : c.rejectsAnswer s st = false := by
  cases hc : c.cache.parsed with
  | some q => simp [rejectsAnswer, hc]
  | none =>
    rw [parsed_fresh hc] at h
    cases hr : (c.ensureResponse s st).result with
    | error e => simp [rejectsAnswer, hr]
    | ok raw =>
      rw [Reading.bind_ok hr] at h
      cases hp : ParsedResponse.parse raw with
      | ok q => simp [rejectsAnswer, hr, hp, Except.isOk, Except.toBool]
      | error fault => simp [understand_error hp, fail] at h

variable (s : Service σ) (c : Criteria) (st : History × σ)

theorem accounted_fail {α : Type} (reason : String) :
    (c.fail s.recorded reason st : Reading (History × σ) α).Accounted c.model.collection c.selector
      st true := by
  constructor <;>
    simp [fail, Service.recorded, Fault.of?, Event.fault?, Event.searchedOn, Event.fetchedOn]

theorem accounted_execute :
    (c.execute s.recorded st).Accounted c.model.collection c.selector st false := by
  cases hb : c.query.isBlank with
  | true =>
    rw [execute_blank hb]
    constructor <;> simp [Fault.of?]
  | false =>
    rcases h : s.search c.model c.selector c.effectiveOptions st.2 with ⟨e | raw, after⟩
    · rw [execute_error hb (Service.search_recorded h)]
      constructor <;>
        simp [fail, Service.recorded, Fault.of?, Event.fault?, Event.searchedOn, Event.fetchedOn,
          Except.isOk, Except.toBool]
    · rw [execute_ok hb (Service.search_recorded h)]
      constructor <;>
        simp [Fault.of?, Event.fault?, Event.searchedOn, Event.fetchedOn, Except.isOk,
          Except.toBool]

theorem accounted_ensureResponse :
    (c.ensureResponse s.recorded st).Accounted c.model.collection c.selector st false := by
  cases h : c.cache.response with
  | some raw =>
    rw [ensureResponse_cached h]
    exact .ok
  | none =>
    rw [ensureResponse_fresh h]
    exact accounted_execute s c st

theorem accounted_understand (raw : Json) :
    (understand s.recorded raw c st).Accounted c.model.collection c.selector st
      (!(ParsedResponse.parse raw).isOk) := by
  cases h : ParsedResponse.parse raw with
  | ok p =>
    rw [understand_ok h]
    exact .ok
  | error fault =>
    rw [understand_error h]
    exact accounted_fail s c st fault.message

theorem accounted_gather (p : ParsedResponse) :
    (gather s.recorded p c st).Accounted c.model.collection c.selector st false := by
  by_cases hp : p.ids = []
  · rw [gather_nil hp]
    exact .ok
  · rcases h : s.fetch c.model p.ids st.2 with ⟨e | ds, after⟩
    · rw [gather_error hp (Service.fetch_recorded h)]
      constructor <;>
        simp [fail, Service.recorded, Fault.of?, Event.fault?, Event.searchedOn, Event.fetchedOn,
          Except.isOk, Except.toBool]
    · rw [gather_ok hp (Service.fetch_recorded h)]
      constructor <;>
        simp [Fault.of?, Event.fault?, Event.searchedOn, Event.fetchedOn, Except.isOk,
          Except.toBool]

theorem accounted_parsed :
    (c.parsed s.recorded st).Accounted c.model.collection c.selector st
      (c.rejectsAnswer s.recorded st) := by
  cases h : c.cache.parsed with
  | some p =>
    rw [parsed_cached h]
    have hrejects : c.rejectsAnswer s.recorded st = false := by simp [rejectsAnswer, h]
    rw [hrejects]
    exact .ok
  | none =>
    have hmoves := moves_ensureResponse s.recorded c st
    rw [parsed_fresh h]
    refine (accounted_ensureResponse s c st).bind (fun raw hraw => ⟨rfl, ?_⟩) fun e he => ?_
    · have hrejects : c.rejectsAnswer s.recorded st = !(ParsedResponse.parse raw).isOk := by
        simp [rejectsAnswer, h, hraw]
      have hstep := accounted_understand s (c.ensureResponse s.recorded st).criteria
        (c.ensureResponse s.recorded st).state raw
      rw [hrejects, ← hmoves.model_eq, selector, ← hmoves.query_eq]
      exact hstep
    · simp [rejectsAnswer, he]

theorem accounted_documents :
    (c.documents s.recorded st).Accounted c.model.collection c.selector st
      (c.rejects s.recorded st .documents) := by
  cases h : c.cache.documents with
  | some ds =>
    rw [documents_cached h]
    have hrejects : c.rejects s.recorded st .documents = false := by simp [rejects, h]
    rw [hrejects]
    exact .ok
  | none =>
    have hrejects : c.rejects s.recorded st .documents = c.rejectsAnswer s.recorded st := by
      simp [rejects, h]
    have hmoves := moves_parsed s.recorded c st
    rw [documents_fresh h, hrejects]
    refine (accounted_parsed s c st).bind (fun p hp => ⟨rejectsAnswer_of_ok hp, ?_⟩)
      fun e _ => rfl
    have hstep := accounted_gather s (c.parsed s.recorded st).criteria
      (c.parsed s.recorded st).state p
    rw [rejectsAnswer_of_ok hp, ← hmoves.model_eq, selector, ← hmoves.query_eq]
    exact hstep

theorem accounted_read (kind : ReadKind) :
    (c.read s.recorded st kind).Accounted c.model.collection c.selector st
      (c.rejects s.recorded st kind) := by
  cases kind with
  | execute => exact (accounted_execute s c st).map _
  | documents => exact (accounted_documents s c st).map _
  | total => exact ((accounted_parsed s c st).map _).map _
  | ids => exact ((accounted_parsed s c st).map _).map _
  | hits => exact ((accounted_parsed s c st).map _).map _

end Criteria

/-- If the reading, which began at `st`, was refused, the outside is as it was. -/
def Reading.RefusedAt {σ α : Type} (r : Reading σ α) (st : σ) : Prop :=
  r.result = .error .emptySelector → r.state = st

namespace Reading.RefusedAt

variable {σ α β : Type} {r : Reading σ α} {st : σ}

theorem of_ne (h : r.result ≠ .error .emptySelector) : r.RefusedAt st := fun hr => absurd hr h

theorem map (h : r.RefusedAt st) (f : α → β) : (r.map f).RefusedAt st := by
  intro hr
  cases hresult : r.result with
  | ok a => simp [hresult, Except.map] at hr
  | error e =>
    rw [map_result, hresult] at hr
    obtain rfl := Except.error.inj hr
    exact h hresult

theorem bind {f : α → Criteria → σ → Reading σ β} (h : r.RefusedAt st)
    (hf : ∀ a c st', (f a c st').result ≠ .error .emptySelector) : (r.bind f).RefusedAt st := by
  intro hr
  cases hresult : r.result with
  | ok a =>
    rw [bind_ok hresult] at hr
    exact absurd hr (hf a r.criteria r.state)
  | error e =>
    rw [bind_error hresult] at hr ⊢
    obtain rfl := Except.error.inj hr
    exact h hresult

end Reading.RefusedAt

namespace Criteria

variable {σ : Type} (s : Service σ) (c : Criteria) (st : σ)

theorem refusedAt_execute : (c.execute s st).RefusedAt st := by
  cases hb : c.query.isBlank with
  | true =>
    rw [execute_blank hb]
    exact fun _ => rfl
  | false =>
    rcases h : s.search c.model c.selector c.effectiveOptions st with ⟨e | raw, after⟩
    · rw [execute_error hb h]
      exact .of_ne (by simp [fail])
    · rw [execute_ok hb h]
      exact .of_ne (by simp)

theorem refusedAt_ensureResponse : (c.ensureResponse s st).RefusedAt st := by
  cases h : c.cache.response with
  | some raw =>
    rw [ensureResponse_cached h]
    exact fun _ => rfl
  | none =>
    rw [ensureResponse_fresh h]
    exact refusedAt_execute s c st

theorem refusedAt_parsed : (c.parsed s st).RefusedAt st := by
  cases h : c.cache.parsed with
  | some p =>
    rw [parsed_cached h]
    exact fun _ => rfl
  | none =>
    rw [parsed_fresh h]
    refine (refusedAt_ensureResponse s c st).bind fun raw c st' => ?_
    cases hp : ParsedResponse.parse raw with
    | ok p => simp [understand_ok hp]
    | error fault => simp [understand_error hp, fail]

theorem refusedAt_documents : (c.documents s st).RefusedAt st := by
  cases h : c.cache.documents with
  | some ds =>
    rw [documents_cached h]
    exact fun _ => rfl
  | none =>
    rw [documents_fresh h]
    refine (refusedAt_parsed s c st).bind fun p c st' => ?_
    by_cases hp : p.ids = []
    · simp [gather_nil hp]
    · rcases hs : s.fetch c.model p.ids st' with ⟨e | ds, after⟩
      · simp [gather_error hp hs, fail]
      · simp [gather_ok hp hs]

theorem refusedAt_read (kind : ReadKind) : (c.read s st kind).RefusedAt st := by
  cases kind with
  | execute => exact (refusedAt_execute s c st).map _
  | documents => exact (refusedAt_documents s c st).map _
  | total => exact ((refusedAt_parsed s c st).map _).map _
  | ids => exact ((refusedAt_parsed s c st).map _).map _
  | hits => exact ((refusedAt_parsed s c st).map _).map _

end Criteria
end SearchCriteria
