import SearchCriteria.Proofs.Cache.Coherence

/-! A criteria that keeps what it finds against one that keeps nothing. As long as the outside
gives the same answer to the same question, nobody can tell them apart by reading. -/
namespace SearchCriteria

/-- Answers that depend on nothing but the question. -/
structure FixedAnswers where
  search : SearchCall → Except BackendError Json
  fetch : List String → Except BackendError (List String)

structure Service.GivenBy {σ : Type} (s : Service σ) (a : FixedAnswers) : Prop where
  search : ∀ (m : Model) (selector : String) (options : QueryOptions) (st : σ),
    (s.search m selector options st).1 = a.search ⟨m.collection, selector, options⟩
  fetch : ∀ (m : Model) (ids : List String) (st : σ), (s.fetch m ids st).1 = a.fetch ids

def Service.GivenBy.evidence {σ : Type} {s : Service σ} {a : FixedAnswers} (h : s.GivenBy a) :
    Evidence s where
  searched _ call raw := a.search call = .ok raw
  fetched _ _ ids ds := a.fetch ids = .ok ds
  of_search hs := by rw [← h.search, hs]
  of_fetch hs := by rw [← h.fetch, hs]
  keep_fetch _ hknown := hknown

/-- A query bound to a model, which searches, parses and fetches anew at every read. -/
structure Uncached where
  model : Model
  query : SearchQuery
  deriving DecidableEq

namespace Uncached

def response (a : FixedAnswers) (u : Uncached) : Except CriteriaError Json :=
  if u.query.isBlank then .error .emptySelector
  else
    match a.search ⟨u.model.collection, u.query.selector,
      { u.query.options with rows := u.query.options.rows.or u.model.defaultRows }⟩ with
    | .ok raw => .ok raw
    | .error e => .error (.queryFailed e.message)

def parsed (a : FixedAnswers) (u : Uncached) : Except CriteriaError ParsedResponse :=
  match u.response a with
  | .error e => .error e
  | .ok raw =>
    match ParsedResponse.parse raw with
    | .ok p => .ok p
    | .error fault => .error (.queryFailed fault.message)

def documents (a : FixedAnswers) (u : Uncached) : Except CriteriaError (List String) :=
  match u.parsed a with
  | .error e => .error e
  | .ok p =>
    if p.ids = [] then .ok []
    else
      match a.fetch p.ids with
      | .ok ds => .ok ds
      | .error e => .error (.queryFailed e.message)

def read (a : FixedAnswers) (u : Uncached) : ReadKind → Except CriteriaError Finding
  | .total => (u.parsed a).map fun p => .total p.total
  | .ids => (u.parsed a).map fun p => .ids p.ids
  | .hits => (u.parsed a).map fun p => .hits p.docs
  | .documents => (u.documents a).map .records
  | .execute => (u.response a).map .raw

end Uncached

def Criteria.uncached (c : Criteria) : Uncached := ⟨c.model, c.query⟩

namespace Criteria

variable {σ : Type} {s : Service σ} {a : FixedAnswers}

theorem Moves.uncached_eq {α : Type} {c : Criteria} {st : σ} {r : Reading σ α}
    (h : Moves s c st r) : r.criteria.uncached = c.uncached := by
  rw [uncached, uncached, h.model_eq, h.query_eq]

theorem result_execute (h : s.GivenBy a) (c : Criteria) (st : σ) :
    (c.execute s st).result = c.uncached.response a := by
  cases hb : c.query.isBlank with
  | true => simp [execute_blank hb, Uncached.response, uncached, hb]
  | false =>
    have hs : a.search c.searchCall = (s.search c.model c.selector c.effectiveOptions st).1 :=
      (h.search ..).symm
    have hu : c.uncached.response a =
        match a.search c.searchCall with
        | .ok raw => .ok raw
        | .error e => .error (.queryFailed e.message) := by
      simp only [Uncached.response, uncached, hb]
      rfl
    rw [hu, hs]
    rcases ha : s.search c.model c.selector c.effectiveOptions st with ⟨e | raw, after⟩
    · rw [execute_error hb ha]; rfl
    · rw [execute_ok hb ha]

theorem result_ensureResponse (h : s.GivenBy a) {c : Criteria} {st : σ}
    (hc : Coherent h.evidence (c, st)) :
    (c.ensureResponse s st).result = c.uncached.response a := by
  cases hr : c.cache.response with
  | none => rw [ensureResponse_fresh hr, result_execute h]
  | some raw =>
    obtain ⟨hb, hknown⟩ := hc.response hr
    have hs : a.search c.searchCall = .ok raw := hknown
    rw [ensureResponse_cached hr]
    simp only [searchCall, effectiveOptions, options, selector] at hs
    simp [Uncached.response, uncached, hb, hs]

theorem result_parsed (h : s.GivenBy a) {c : Criteria} {st : σ}
    (hc : Coherent h.evidence (c, st)) : (c.parsed s st).result = c.uncached.parsed a := by
  have hresult := result_ensureResponse h hc
  cases hp : c.cache.parsed with
  | some p =>
    -- The answer that was parsed is still there, and it is what a search would give.
    obtain ⟨raw, hraw, hparse⟩ := hc.parsed hp
    rw [ensureResponse_cached hraw] at hresult
    simp [parsed_cached hp, Uncached.parsed, ← hresult, hparse]
  | none =>
    rw [parsed_fresh hp, Uncached.parsed, ← hresult]
    cases hr : (c.ensureResponse s st).result with
    | error e => rw [Reading.bind_error hr]
    | ok raw =>
      rw [Reading.bind_ok hr]
      cases hparse : ParsedResponse.parse raw with
      | ok p => rw [understand_ok hparse]; simp [hparse]
      | error fault => rw [understand_error hparse]; simp [hparse, fail]

theorem result_documents (h : s.GivenBy a) {c : Criteria} {st : σ}
    (hc : Coherent h.evidence (c, st)) : (c.documents s st).result = c.uncached.documents a := by
  have hresult := result_parsed h hc
  cases hd : c.cache.documents with
  | some ds =>
    obtain ⟨p, hp, hknown⟩ := hc.documents hd
    rw [parsed_cached hp] at hresult
    rw [documents_cached hd, Uncached.documents, ← hresult]
    by_cases hids : p.ids = []
    · rw [if_pos hids] at hknown
      simp [hids, hknown]
    · rw [if_neg hids] at hknown
      have hs : a.fetch p.ids = .ok ds := hknown
      simp [hids, hs]
  | none =>
    rw [documents_fresh hd, Uncached.documents, ← hresult]
    cases hr : (c.parsed s st).result with
    | error e => rw [Reading.bind_error hr]
    | ok p =>
      rw [Reading.bind_ok hr]
      by_cases hids : p.ids = []
      · rw [gather_nil hids]; simp [hids]
      · have hs := h.fetch (c.parsed s st).criteria.model p.ids (c.parsed s st).state
        rcases hf : s.fetch (c.parsed s st).criteria.model p.ids (c.parsed s st).state
          with ⟨e | ds, after⟩
        · rw [gather_error hids hf]; simp [hids, ← hs, hf, fail]
        · rw [gather_ok hids hf]; simp [hids, ← hs, hf]

theorem result_read (h : s.GivenBy a) {c : Criteria} {st : σ}
    (hc : Coherent h.evidence (c, st)) (kind : ReadKind) :
    (c.read s st kind).result = c.uncached.read a kind := by
  cases kind with
  | documents => simp [read, Uncached.read, result_documents h hc]
  | execute => simp [read, Uncached.read, result_execute h]
  | _ =>
    simp only [read, total, documentIds, hits, Reading.map_result, result_parsed h hc]
    cases hp : c.uncached.parsed a <;> simp [Uncached.read, hp, Except.map]

end Criteria

structure UncachedRun where
  criteria : Uncached
  found : List (Except CriteriaError Finding) := []

namespace UncachedRun

def start (m : Model) (q : SearchQuery) : UncachedRun := ⟨⟨m, q⟩, []⟩

def change (u : UncachedRun) (f : SearchQuery → SearchQuery) : UncachedRun :=
  { u with criteria := { u.criteria with query := f u.criteria.query } }

def step (a : FixedAnswers) (u : UncachedRun) : Action → UncachedRun
  | .chain op => u.change fun q => q.apply op
  | .mergeCriteria other => u.change fun q => q.merge other.query
  | .withExtension _ => u
  | .fork => u
  | .read kind => { u with found := u.found ++ [u.criteria.read a kind] }

def steps (a : FixedAnswers) (u : UncachedRun) (actions : List Action) : UncachedRun :=
  actions.foldl (step a) u

end UncachedRun

namespace Run

variable {σ : Type} {s : Service σ} {a : FixedAnswers}

def uncached (r : Run σ) : UncachedRun := ⟨r.criteria.uncached, r.found⟩

theorem uncached_step (h : s.GivenBy a) (r : Run σ)
    (hr : Coherent h.evidence (r.criteria, r.state)) (action : Action) :
    (r.step s action).uncached = r.uncached.step a action := by
  cases action with
  | read kind =>
    have hu := (Criteria.moves_read s r.criteria r.state kind).uncached_eq
    have hf := Criteria.result_read h hr kind
    simp only [uncached, step, UncachedRun.step, hu, hf]
  | _ => rfl

theorem uncached_steps (h : s.GivenBy a) (r : Run σ)
    (hr : Coherent h.evidence (r.criteria, r.state)) (actions : List Action) :
    (r.steps s actions).uncached = r.uncached.steps a actions := by
  induction actions generalizing r with
  | nil => rfl
  | cons action actions ih =>
    rw [steps_cons, ih _ (Coherent.step r action hr), uncached_step h r hr]
    rfl

/-- Every read of a run finds what it would find without a cache, the same value or the same
failure; so does the read that uses the criteria up. -/
theorem found_eq_uncached (h : s.GivenBy a) (m : Model) (q : SearchQuery) (st : σ)
    (actions : List Action) :
    let r := (start m q st).steps s actions
    let u := (UncachedRun.start m q).steps a actions
    r.found = u.found ∧ (r.criteria.intoDocuments s r.state).1 = u.criteria.documents a := by
  intro r u
  have hempty : Coherent h.evidence ((start m q st).criteria, st) := Coherent.of_empty rfl _
  have hu : r.uncached = u := uncached_steps h _ hempty actions
  have hr : Coherent h.evidence (r.criteria, r.state) := Coherent.steps _ actions hempty
  refine ⟨congrArg UncachedRun.found hu, ?_⟩
  have hc : r.criteria.uncached = u.criteria := congrArg UncachedRun.criteria hu
  rw [← hc]
  exact Criteria.result_documents h hr

end Run

def FixedAnswers.service (a : FixedAnswers) : Service Nat where
  search m selector options n := (a.search ⟨m.collection, selector, options⟩, n + 1)
  fetch _ ids n := (a.fetch ids, n + 1)
  failed _ _ _ n := n

theorem FixedAnswers.givenBy_service (a : FixedAnswers) : a.service.GivenBy a where
  search _ _ _ _ := rfl
  fetch _ _ _ := rfl

namespace Run

/-- One selector cannot be searched; any other one matches a document of its own name. -/
def oneRefused : FixedAnswers where
  search call :=
    if call.selector = "(a:1)" then .error (.transport "down")
    else .ok (responseWithIds [call.selector])
  fetch ids := .ok ids

/-- A read that fails, then a longer selector that is read twice before it is used up. -/
theorem found_after_refusal :
    let actions : List Action := [.chain (.filter (.raw "a:1")), .read .documents,
      .chain (.filter (.raw "b:2")), .read .total, .read .documents]
    let r := (start { id := 0, collection := "people" } {} 0).steps oneRefused.service actions
    oneRefused.service.GivenBy oneRefused ∧
    r.found = [.error (.queryFailed "Transport error: down"), .ok (.total 1),
      .ok (.records ["(a:1) AND (b:2)"])] ∧
    (r.criteria.intoDocuments oneRefused.service r.state).1 = .ok ["(a:1) AND (b:2)"] := by
  intro actions r
  obtain ⟨hfound, htaken⟩ := found_eq_uncached oneRefused.givenBy_service
    { id := 0, collection := "people" } {} 0 actions
  refine ⟨oneRefused.givenBy_service, ?_, ?_⟩
  · rw [hfound]
    rfl
  · have hlast : (UncachedRun.steps oneRefused (.start { id := 0, collection := "people" } {})
        actions).criteria =
        ⟨{ id := 0, collection := "people" }, { selector := "(a:1) AND (b:2)" }⟩ := by
      decide +kernel
    rw [htaken, hlast]
    rfl

end Run
end SearchCriteria
