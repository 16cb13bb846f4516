import SearchCriteria.Proofs.Cache.Coherence

/-! How much one read asks of the outside. The requests are counted in the history: a read searches
once at most and fetches once at most, only for what is not kept, and never a blank selector. -/
namespace SearchCriteria

namespace Event

def isSearch : Event → Bool
  | searched .. => true
  | _ => false

def isFetch : Event → Bool
  | fetched .. => true
  | _ => false

end Event

namespace History

def searches (h : History) : Nat := h.countP Event.isSearch

def fetches (h : History) : Nat := h.countP Event.isFetch

variable {h : History} {call : SearchCall} {collection selector reason : String} {ids : List String}
  {answer : Except BackendError Json} {found : Except BackendError (List String)}

@[simp] theorem searches_searched : searches (.searched call answer :: h) = h.searches + 1 :=
  List.countP_cons_of_pos rfl
@[simp] theorem searches_fetched : searches (.fetched collection ids found :: h) = h.searches :=
  List.countP_cons_of_neg Bool.false_ne_true
@[simp] theorem searches_failed : searches (.failed collection selector reason :: h) = h.searches :=
  List.countP_cons_of_neg Bool.false_ne_true
@[simp] theorem fetches_searched : fetches (.searched call answer :: h) = h.fetches :=
  List.countP_cons_of_neg Bool.false_ne_true
@[simp] theorem fetches_fetched : fetches (.fetched collection ids found :: h) = h.fetches + 1 :=
  List.countP_cons_of_pos rfl
@[simp] theorem fetches_failed : fetches (.failed collection selector reason :: h) = h.fetches :=
  List.countP_cons_of_neg Bool.false_ne_true

end History

namespace Criteria

variable {σ : Type}

/-- Whether a read other than an explicit search has to search. -/
def wantsSearch (c : Criteria) : Bool := !c.query.isBlank && c.cache.response.isNone

/-- Whether reading the documents has to fetch them: none are kept, and an answer is understood
that has matches. -/
def wantsFetch (s : Service σ) (c : Criteria) (st : σ) : Bool :=
  c.cache.documents.isNone &&
    match (c.parsed s st).result with
    | .ok p => !p.ids.isEmpty
    | .error _ => false

theorem wantsFetch_iff (s : Service σ) (c : Criteria) (st : σ) :
    c.wantsFetch s st = true ↔
      c.cache.documents = none ∧ ∃ p, (c.parsed s st).result = .ok p ∧ p.ids ≠ [] := by
  cases h : (c.parsed s st).result <;> simp [wantsFetch, h]

end Criteria

/-- The requests that a reading made, which began at `st`. -/
structure Reading.Spends {σ α : Type} (r : Reading (History × σ) α) (st : History × σ)
    (searches fetches : Nat) : Prop where
  searches : r.state.1.searches = st.1.searches + searches
  fetches : r.state.1.fetches = st.1.fetches + fetches

namespace Reading.Spends

variable {σ α β : Type} {r : Reading (History × σ) α} {st : History × σ} {m n : Nat}

theorem nothing {result : Except CriteriaError α} {c : Criteria} :
    (⟨result, c, st⟩ : Reading (History × σ) α).Spends st 0 0 := ⟨rfl, rfl⟩

theorem map (h : r.Spends st m n) (f : α → β) : (r.map f).Spends st m n := ⟨h.searches, h.fetches⟩

theorem bind {f : α → Criteria → History × σ → Reading (History × σ) β} {k : Nat}
    (h : r.Spends st m 0)
    (hok : ∀ a, r.result = .ok a → (f a r.criteria r.state).Spends r.state 0 k)
    (herror : ∀ e, r.result = .error e → k = 0) : (r.bind f).Spends st m k := by
  cases hr : r.result with
  | ok a =>
    rw [bind_ok hr]
    refine ⟨(hok a hr).searches.trans ?_, (hok a hr).fetches.trans ?_⟩
    · rw [h.searches]
      rfl
    · rw [h.fetches]
      rfl
  | error e =>
    rw [bind_error hr, herror e hr]
    exact ⟨h.searches, h.fetches⟩

end Reading.Spends

namespace Criteria

open Reading

variable {σ : Type} {s : Service σ} {c : Criteria} {st : History × σ}

theorem spends_fail {α : Type} (reason : String) :
    (c.fail s.recorded reason st : Reading (History × σ) α).Spends st 0 0 :=
  ⟨History.searches_failed, History.fetches_failed⟩

theorem spends_execute (s : Service σ) (c : Criteria) (st : History × σ) :
    (c.execute s.recorded st).Spends st (!c.query.isBlank).toNat 0 := by
  cases hb : c.query.isBlank with
  | true =>
    rw [execute_blank hb]
    exact .nothing
  | false =>
    rcases h : s.search c.model c.selector c.effectiveOptions st.2 with ⟨e | raw, after⟩
    · rw [execute_error hb (Service.search_recorded h)]
      constructor <;> simp [fail, Service.recorded]
    · rw [execute_ok hb (Service.search_recorded h)]
      constructor <;> simp

theorem spends_ensureResponse (s : Service σ) (c : Criteria) (st : History × σ) :
    (c.ensureResponse s.recorded st).Spends st c.wantsSearch.toNat 0 := by
  cases h : c.cache.response with
  | some raw =>
    rw [ensureResponse_cached h]
    have hw : c.wantsSearch = false := by simp [wantsSearch, h]
    rw [hw]
    exact .nothing
  | none =>
    rw [ensureResponse_fresh h]
    have hw : c.wantsSearch = !c.query.isBlank := by simp [wantsSearch, h]
    rw [hw]
    exact spends_execute s c st

theorem spends_understand (raw : Json) :
    (understand s.recorded raw c st).Spends st 0 0 := by
  cases h : ParsedResponse.parse raw with
  | ok p =>
    rw [understand_ok h]
    exact .nothing
  | error fault =>
    rw [understand_error h]
    exact spends_fail _

theorem response_of_parsed {x : Criteria × (History × σ)} {p : ParsedResponse}
    (hx : Coherent s.evidence x) (h : x.1.cache.parsed = some p) :
    x.1.cache.response.isNone = false := by
  obtain ⟨raw, hraw, -⟩ := hx.parsed h
  simp [hraw]

theorem wantsSearch_of_parsed {p : ParsedResponse} (hc : Coherent s.evidence (c, st))
    (h : c.cache.parsed = some p) : c.wantsSearch = false := by
  have hresponse : c.cache.response.isNone = false := response_of_parsed hc h
  rw [wantsSearch, hresponse, Bool.and_false]

theorem spends_parsed (hc : Coherent s.evidence (c, st)) :
    (c.parsed s.recorded st).Spends st c.wantsSearch.toNat 0 := by
  cases h : c.cache.parsed with
  | some p =>
    rw [parsed_cached h, wantsSearch_of_parsed hc h]
    exact .nothing
  | none =>
    rw [parsed_fresh h]
    exact (spends_ensureResponse s c st).bind (fun raw _ => spends_understand raw) fun _ _ => rfl

theorem spends_gather (p : ParsedResponse) :
    (gather s.recorded p c st).Spends st 0 (!p.ids.isEmpty).toNat := by
  by_cases hp : p.ids = []
  · rw [gather_nil hp, hp]
    exact .nothing
  · have hw : (!p.ids.isEmpty) = true := by simp [hp]
    rw [hw]
    rcases h : s.fetch c.model p.ids st.2 with ⟨e | ds, after⟩
    · rw [gather_error hp (Service.fetch_recorded h)]
      constructor <;> simp [fail, Service.recorded]
    · rw [gather_ok hp (Service.fetch_recorded h)]
      constructor <;> simp

theorem spends_documents (hc : Coherent s.evidence (c, st)) :
    (c.documents s.recorded st).Spends st c.wantsSearch.toNat
      (c.wantsFetch s.recorded st).toNat := by
  cases h : c.cache.documents with
  | some ds =>
    obtain ⟨p, hp, -⟩ := hc.documents h
    have hfetch : c.wantsFetch s.recorded st = false := by simp [wantsFetch, h]
    rw [documents_cached h, wantsSearch_of_parsed hc hp, hfetch]
    exact .nothing
  | none =>
    rw [documents_fresh h]
    refine (spends_parsed hc).bind (fun p hp => ?_) fun e he => ?_
    · have hfetch : c.wantsFetch s.recorded st = !p.ids.isEmpty := by simp [wantsFetch, h, hp]
      rw [hfetch]
      exact spends_gather p
    · simp [wantsFetch, h, he]

theorem spends_read (hc : Coherent s.evidence (c, st)) (kind : ReadKind) :
    (c.read s.recorded st kind).Spends st
      (if kind = .execute then (!c.query.isBlank).toNat else c.wantsSearch.toNat)
      (if kind = .documents then (c.wantsFetch s.recorded st).toNat else 0) := by
  cases kind with
  | documents => exact (spends_documents hc).map _
  | execute => exact (spends_execute s c st).map _
  | total => exact ((spends_parsed hc).map _).map _
  | ids => exact ((spends_parsed hc).map _).map _
  | hits => exact ((spends_parsed hc).map _).map _

end Criteria

def History.EverySearch (P : SearchCall → Prop) (h : History) : Prop :=
  ∀ call answer, .searched call answer ∈ h → P call

namespace History.EverySearch

variable {σ : Type} {s : Service σ} {P Q : SearchCall → Prop} {h : History}

theorem nil : EverySearch P [] := by
  intro call answer hmem
  cases hmem

theorem cons {e : Event} (hh : h.EverySearch P)
    (he : ∀ call answer, e = .searched call answer → P call) : EverySearch P (e :: h) := by
  intro call answer hmem
  rcases List.mem_cons.mp hmem with rfl | hmem
  · exact he call answer rfl
  · exact hh call answer hmem

theorem mono (hh : h.EverySearch P) (hPQ : ∀ call, P call → Q call) : h.EverySearch Q :=
  fun call answer hmem => hPQ call (hh call answer hmem)

theorem search (hh : h.EverySearch P) {c : Criteria} (hP : P c.searchCall)
    (answer : Except BackendError Json) :
    EverySearch P (.searched ⟨c.model.collection, c.selector, c.effectiveOptions⟩ answer :: h) := by
  refine hh.cons fun call found he => ?_
  obtain ⟨rfl, -⟩ := Event.searched.inj he
  exact hP

theorem fetch (hh : h.EverySearch P) (collection : String) (ids : List String)
    (answer : Except BackendError (List String)) :
    EverySearch P (.fetched collection ids answer :: h) := by
  refine hh.cons fun call found he => ?_
  cases he

theorem failure (hh : h.EverySearch P) (collection selector reason : String) :
    EverySearch P (.failed collection selector reason :: h) := by
  refine hh.cons fun call found he => ?_
  cases he

/-- A move makes the search of its criteria or none, and none if the criteria is blank. -/
theorem move {x y : Criteria × (History × σ)} (hxy : Move s.recorded x y)
    (hP : x.1.query.isBlank = false → P x.1.searchCall) (hx : x.2.1.EverySearch P) :
    y.2.1.EverySearch P := by
  cases hxy with
  | search hb h =>
    obtain ⟨-, rfl⟩ := Prod.mk.inj h
    exact hx.search (hP hb) _
  | refuse hb h =>
    obtain ⟨-, rfl⟩ := Prod.mk.inj h
    exact (hx.search (hP hb) _).failure _ _ _
  | understand hc hn h => exact hx
  | reject hc h => exact hx.failure _ _ _
  | skip hc hp => exact hx
  | fetch hc hp h =>
    obtain ⟨-, rfl⟩ := Prod.mk.inj h
    exact hx.fetch _ _ _
  | lose hc hp h =>
    obtain ⟨-, rfl⟩ := Prod.mk.inj h
    exact (hx.fetch _ _ _).failure _ _ _

theorem read {c : Criteria} {st : History × σ} (kind : ReadKind)
    (hP : c.query.isBlank = false → P c.searchCall) (hst : st.1.EverySearch P) :
    (c.read s.recorded st kind).state.1.EverySearch P := by
  have hmoves := Criteria.moves_read s.recorded c st kind
  -- All moves of a read are made by criteria that ask for the same.
  refine (hmoves.keep (P := fun x => x.1.fork = c.fork ∧ x.2.1.EverySearch P)
    (fun {x y} hxy hx => ?_) ⟨rfl, hst⟩).2
  obtain ⟨hsame, hsent⟩ := hx
  have hfork : y.1.fork = x.1.fork := by cases hxy <;> rfl
  have hcall : x.1.fork.searchCall = c.fork.searchCall := by rw [hsame]
  have hquery : x.1.fork.query = c.fork.query := by rw [hsame]
  refine ⟨hfork.trans hsame, hsent.move hxy fun hb => ?_⟩
  rw [← Criteria.fork_query, hquery] at hb
  have hallowed : P c.fork.searchCall := hP hb
  rwa [← hcall] at hallowed

end History.EverySearch

def History.NoneBlank (h : History) : Prop :=
  ∀ call answer, .searched call answer ∈ h → Text.isBlank call.selector = false

namespace History.NoneBlank

theorem nil : NoneBlank [] := EverySearch.nil

theorem step {σ : Type} {s : Service σ} {r : Run (History × σ)} (a : Action)
    (hr : r.state.1.NoneBlank) : (r.step s.recorded a).state.1.NoneBlank := by
  cases a with
  | read kind => exact EverySearch.read kind id hr
  | _ => exact hr

end History.NoneBlank

end SearchCriteria
