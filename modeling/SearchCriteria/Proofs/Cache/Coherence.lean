import SearchCriteria.Proofs.Cache.Outside

/-! Coherence of what a criteria has found: it is what the outside answered to the search and
the fetch that the criteria stands for now. Answers are compared with a history of requests,
which is only written, so that keeping it changes nothing else. -/
namespace SearchCriteria

/-- The search that reading a criteria asks for. -/
def Criteria.searchCall (c : Criteria) : SearchCall :=
  ⟨c.model.collection, c.selector, c.effectiveOptions⟩

/-- Which searches and fetches an outside is known to have answered in each of its states, and how.
A fetch does not make an answer to a search unknown. -/
structure Evidence {σ : Type} (s : Service σ) where
  searched : σ → SearchCall → Json → Prop
  fetched : σ → String → List String → List String → Prop
  of_search : ∀ {m : Model} {selector : String} {options : QueryOptions} {st after : σ}
    {raw : Json}, s.search m selector options st = (.ok raw, after) →
    searched after ⟨m.collection, selector, options⟩ raw
  of_fetch : ∀ {m : Model} {ids : List String} {st after : σ} {ds : List String},
    s.fetch m ids st = (.ok ds, after) → fetched after m.collection ids ds
  keep_fetch : ∀ {m : Model} {ids : List String} {st after : σ}
    {answer : Except BackendError (List String)} {call : SearchCall} {raw : Json},
    s.fetch m ids st = (answer, after) → searched st call raw → searched after call raw

/-- What a criteria has found is what the outside is known to have answered. -/
structure Coherent {σ : Type} {s : Service σ} (E : Evidence s) (x : Criteria × σ) : Prop where
  response : ∀ {raw}, x.1.cache.response = some raw →
    x.1.query.isBlank = false ∧ E.searched x.2 x.1.searchCall raw
  parsed : ∀ {p}, x.1.cache.parsed = some p →
    ∃ raw, x.1.cache.response = some raw ∧ ParsedResponse.parse raw = .ok p
  documents : ∀ {ds}, x.1.cache.documents = some ds →
    ∃ p, x.1.cache.parsed = some p ∧
      if p.ids = [] then ds = [] else E.fetched x.2 x.1.model.collection p.ids ds

namespace Coherent

variable {σ : Type} {s : Service σ} {E : Evidence s}

theorem of_empty {c : Criteria} (h : c.cache = {}) (st : σ) : Coherent E (c, st) := by
  constructor <;> simp [h]

theorem move {x y : Criteria × σ} (hxy : Move s x y) (h : Coherent E x) : Coherent E y := by
  cases hxy with
  | search hb hs =>
    refine ⟨fun hraw => ?_, by simp, by simp⟩
    obtain rfl := Option.some.inj hraw
    exact ⟨hb, E.of_search hs⟩
  | refuse hb hs => exact of_empty rfl _
  | understand hc hn hp =>
    refine ⟨h.response, fun hq => ?_, fun hds => ?_⟩
    · obtain rfl := Option.some.inj hq
      exact ⟨_, hc, hp⟩
    · obtain ⟨p, hcontra, -⟩ := h.documents hds
      rw [hn] at hcontra
      cases hcontra
  | reject hc hp => exact of_empty rfl _
  | skip hc hp =>
    refine ⟨h.response, h.parsed, fun hds => ⟨_, hc, ?_⟩⟩
    obtain rfl := Option.some.inj hds
    rw [if_pos hp]
  | fetch hc hp hs =>
    refine ⟨fun hraw => ?_, h.parsed, fun hds => ⟨_, hc, ?_⟩⟩
    · obtain ⟨hb, hknown⟩ := h.response hraw
      exact ⟨hb, E.keep_fetch hs hknown⟩
    · obtain rfl := Option.some.inj hds
      rw [if_neg hp]
      exact E.of_fetch hs
  | lose hc hp hs => exact of_empty rfl _

theorem moves {α : Type} {c : Criteria} {st : σ} {r : Reading σ α} (hr : Criteria.Moves s c st r)
    (h : Coherent E (c, st)) : Coherent E (r.criteria, r.state) :=
  hr.keep move h

theorem step (r : Run σ) (a : Action) (h : Coherent E (r.criteria, r.state)) :
    Coherent E ((r.step s a).criteria, (r.step s a).state) := by
  cases a with
  | chain op => exact of_empty rfl _
  | mergeCriteria other => exact of_empty rfl _
  | withExtension e => exact ⟨h.response, h.parsed, h.documents⟩
  | fork => exact of_empty rfl _
  | read kind => exact moves (Criteria.moves_read s r.criteria r.state kind) h

theorem steps (r : Run σ) (actions : List Action) (h : Coherent E (r.criteria, r.state)) :
    Coherent E ((r.steps s actions).criteria, (r.steps s actions).state) :=
  Run.steps_keep (P := fun x => Coherent E (x.criteria, x.state)) (fun a hx => step _ a hx) h
    actions

end Coherent

def Reading.ClearsOnError {σ α : Type} (r : Reading σ α) : Prop :=
  ∀ e, r.result = .error e → r.criteria.cache = {}

namespace Reading

variable {σ α β : Type}

theorem clearsOnError_ok {r : Reading σ α} {a : α} (h : r.result = .ok a) : r.ClearsOnError := by
  intro e he
  rw [h] at he
  cases he

theorem clearsOnError_fail {s : Service σ} {c : Criteria} {reason : String} {st : σ} :
    (c.fail s reason st : Reading σ α).ClearsOnError := fun _ _ => rfl

theorem ClearsOnError.map {r : Reading σ α} (h : r.ClearsOnError) (f : α → β) :
    (r.map f).ClearsOnError := by
  intro e he
  cases hr : r.result with
  | ok a => simp [hr, Except.map] at he
  | error e' => exact h e' hr

theorem ClearsOnError.bind {r : Reading σ α} {f : α → Criteria → σ → Reading σ β}
    (h : r.ClearsOnError) (hf : ∀ a c st, (f a c st).ClearsOnError) : (r.bind f).ClearsOnError := by
  cases hr : r.result with
  | ok a => rw [bind_ok hr]; exact hf a r.criteria r.state
  | error e => rw [bind_error hr]; exact fun _ _ => h e hr

end Reading

namespace Coherent

open Criteria

variable {σ : Type} {s : Service σ} {E : Evidence s} {c : Criteria} {st : σ}

/-- Nothing is found with a blank selector, so that refusing to search it leaves nothing. -/
theorem cache_of_blank (h : Coherent E (c, st)) (hb : c.query.isBlank = true) : c.cache = {} := by
  have hresponse : c.cache.response = none := by
    cases hraw : c.cache.response with
    | none => rfl
    | some raw => exact absurd hb (by simp [(h.response hraw).1])
  have hparsed : c.cache.parsed = none := by
    cases hp : c.cache.parsed with
    | none => rfl
    | some p =>
      obtain ⟨raw, hraw, -⟩ := h.parsed hp
      exact absurd (hresponse.symm.trans hraw) (by simp)
  have hdocuments : c.cache.documents = none := by
    cases hds : c.cache.documents with
    | none => rfl
    | some ds =>
      obtain ⟨p, hp, -⟩ := h.documents hds
      exact absurd (hparsed.symm.trans hp) (by simp)
  exact congr (congr (congrArg ResultCache.mk hresponse) hparsed) hdocuments

theorem clearsOnError_execute (h : Coherent E (c, st)) : (c.execute s st).ClearsOnError := by
  cases hb : c.query.isBlank with
  | true => rw [execute_blank hb]; exact fun _ _ => h.cache_of_blank hb
  | false =>
    rcases hs : s.search c.model c.selector c.effectiveOptions st with ⟨e | raw, after⟩
    · rw [execute_error hb hs]; exact Reading.clearsOnError_fail
    · rw [execute_ok hb hs]; exact Reading.clearsOnError_ok rfl

theorem clearsOnError_ensureResponse (h : Coherent E (c, st)) :
    (c.ensureResponse s st).ClearsOnError := by
  cases hraw : c.cache.response with
  | some raw => rw [ensureResponse_cached hraw]; exact Reading.clearsOnError_ok rfl
  | none => rw [ensureResponse_fresh hraw]; exact h.clearsOnError_execute

theorem clearsOnError_parsed (h : Coherent E (c, st)) : (c.parsed s st).ClearsOnError := by
  cases hp : c.cache.parsed with
  | some p => rw [parsed_cached hp]; exact Reading.clearsOnError_ok rfl
  | none =>
    rw [parsed_fresh hp]
    refine h.clearsOnError_ensureResponse.bind fun raw c st => ?_
    cases hparse : ParsedResponse.parse raw with
    | ok p => rw [understand_ok hparse]; exact Reading.clearsOnError_ok rfl
    | error fault => rw [understand_error hparse]; exact Reading.clearsOnError_fail

theorem clearsOnError_documents (h : Coherent E (c, st)) : (c.documents s st).ClearsOnError := by
  cases hds : c.cache.documents with
  | some ds => rw [documents_cached hds]; exact Reading.clearsOnError_ok rfl
  | none =>
    rw [documents_fresh hds]
    refine h.clearsOnError_parsed.bind fun p c st => ?_
    by_cases hp : p.ids = []
    · rw [gather_nil hp]; exact Reading.clearsOnError_ok rfl
    · rcases hs : s.fetch c.model p.ids st with ⟨e | ds, after⟩
      · rw [gather_error hp hs]; exact Reading.clearsOnError_fail
      · rw [gather_ok hp hs]; exact Reading.clearsOnError_ok rfl

theorem clearsOnError_read (h : Coherent E (c, st)) (kind : ReadKind) :
    (c.read s st kind).ClearsOnError := by
  cases kind with
  | documents => exact h.clearsOnError_documents.map _
  | execute => exact h.clearsOnError_execute.map _
  | total => exact (h.clearsOnError_parsed.map _).map _
  | ids => exact (h.clearsOnError_parsed.map _).map _
  | hits => exact (h.clearsOnError_parsed.map _).map _

/-- Only an extension, or a read that succeeds, leaves what was found. -/
theorem cache_step {r : Run σ} (h : Coherent E (r.criteria, r.state)) (a : Action) :
    (r.step s a).criteria.cache = {} ∨ (∃ e, a = .withExtension e) ∨
      ∃ kind finding, a = .read kind ∧ (r.criteria.read s r.state kind).result = .ok finding := by
  cases a with
  | withExtension e => exact .inr (.inl ⟨e, rfl⟩)
  | read kind =>
    cases hread : (r.criteria.read s r.state kind).result with
    | ok finding => exact .inr (.inr ⟨kind, finding, rfl, hread⟩)
    | error e => exact .inl (h.clearsOnError_read kind e hread)
  | _ => exact .inl rfl

end Coherent

/-- One request to the outside and its answer, or a failure that was reported to it. -/
inductive Event
  | searched (call : SearchCall) (answer : Except BackendError Json)
  | fetched (collection : String) (ids : List String)
      (answer : Except BackendError (List String))
  | failed (collection selector reason : String)

/-- Events, the latest one first. -/
abbrev History := List Event

namespace History

def lastSearch? : History → Option (SearchCall × Except BackendError Json)
  | [] => none
  | .searched call answer :: _ => some (call, answer)
  | .fetched .. :: h => lastSearch? h
  | .failed .. :: h => lastSearch? h

/-- The latest fetch and its answer, if no search came after it. -/
def lastFetch? : History → Option (String × List String × Except BackendError (List String))
  | [] => none
  | .searched .. :: _ => none
  | .fetched collection ids answer :: _ => some (collection, ids, answer)
  | .failed .. :: h => lastFetch? h

end History

namespace Service

variable {σ : Type}

def recorded (s : Service σ) : Service (History × σ) where
  search m selector options st :=
    let (answer, after) := s.search m selector options st.2
    (answer, .searched ⟨m.collection, selector, options⟩ answer :: st.1, after)
  fetch m ids st :=
    let (answer, after) := s.fetch m ids st.2
    (answer, .fetched m.collection ids answer :: st.1, after)
  failed m selector reason st :=
    (.failed m.collection selector reason :: st.1, s.failed m selector reason st.2)

theorem search_recorded {s : Service σ} {m : Model} {selector : String} {options : QueryOptions}
    {st : History × σ} {answer : Except BackendError Json} {after : σ}
    (h : s.search m selector options st.2 = (answer, after)) :
    s.recorded.search m selector options st =
      (answer, .searched ⟨m.collection, selector, options⟩ answer :: st.1, after) := by
  simp [recorded, h]

theorem fetch_recorded {s : Service σ} {m : Model} {ids : List String} {st : History × σ}
    {answer : Except BackendError (List String)} {after : σ}
    (h : s.fetch m ids st.2 = (answer, after)) :
    s.recorded.fetch m ids st = (answer, .fetched m.collection ids answer :: st.1, after) := by
  simp [recorded, h]

theorem recorded_mirrors (s : Service σ) : s.recorded.Mirrors s Prod.snd where
  search _ _ _ _ := rfl
  fetch _ _ _ := rfl
  failed _ _ _ _ := rfl

def evidence (s : Service σ) : Evidence s.recorded where
  searched st call raw := st.1.lastSearch? = some (call, .ok raw)
  fetched st collection ids ds := st.1.lastFetch? = some (collection, ids, .ok ds)
  of_search h := by
    obtain ⟨hanswer, rfl⟩ := Prod.mk.inj h
    simp [History.lastSearch?, hanswer]
  of_fetch h := by
    obtain ⟨hanswer, rfl⟩ := Prod.mk.inj h
    simp [History.lastFetch?, hanswer]
  keep_fetch h hknown := by
    obtain ⟨-, rfl⟩ := Prod.mk.inj h
    exact hknown

end Service

def Reading.forget {σ α : Type} (r : Reading (History × σ) α) : Reading σ α :=
  ⟨r.result, r.criteria, r.state.2⟩

theorem Criteria.forget_read {σ : Type} (s : Service σ) (c : Criteria) (st : History × σ)
    (kind : ReadKind) : (c.read s.recorded st kind).forget = c.read s st.2 kind :=
  s.recorded_mirrors.read c st kind

namespace Run

variable {σ : Type}

def forget (r : Run (History × σ)) : Run σ := ⟨r.criteria, r.state.2, r.found⟩

theorem forget_step (s : Service σ) (r : Run (History × σ)) (a : Action) :
    (r.step s.recorded a).forget = r.forget.step s a := by
  cases a with
  | read kind =>
    have h := Criteria.forget_read s r.criteria r.state kind
    simp only [step, forget, ← h, Reading.forget]
  | _ => rfl

/-- Keeping a history changes neither the criteria nor what is found. -/
theorem forget_steps (s : Service σ) (r : Run (History × σ)) (actions : List Action) :
    (r.steps s.recorded actions).forget = r.forget.steps s actions := by
  induction actions generalizing r with
  | nil => rfl
  | cons a actions ih => rw [steps_cons, ih, forget_step, steps_cons]

/-- What is kept is the answer to the latest search, which asked for what the criteria stands for
now, that answer parsed, and the records of the latest fetch. Steps and failed reads empty it. -/
theorem cache_coherent (s : Service σ) (m : Model) (q : SearchQuery) (st : σ)
    (actions : List Action) :
    let r := (start m q (([], st) : History × σ)).steps s.recorded actions
    let c := r.criteria
    r.forget = (start m q st).steps s actions ∧ c.model = m ∧
    (∀ raw, c.cache.response = some raw →
      r.state.1.lastSearch? = some
        (⟨m.collection, c.query.selector,
          { c.query.options with rows := c.query.options.rows.or m.defaultRows }⟩, .ok raw)) ∧
    (∀ p, c.cache.parsed = some p →
      ∃ raw, c.cache.response = some raw ∧ ParsedResponse.parse raw = .ok p) ∧
    (∀ ds, c.cache.documents = some ds →
      ∃ p, c.cache.parsed = some p ∧
        if p.ids = [] then ds = []
        else r.state.1.lastFetch? = some (m.collection, p.ids, .ok ds)) ∧
    (∀ a : Action, (r.step s.recorded a).criteria.cache = {} ∨ (∃ e, a = .withExtension e) ∨
      ∃ kind finding, a = .read kind ∧
        (c.read s.recorded r.state kind).result = .ok finding) := by
  intro r c
  have hmodel : c.model = m := model_steps s.recorded _ actions
  have hcoherent : Coherent s.evidence (c, r.state) :=
    Coherent.steps _ actions (Coherent.of_empty rfl _)
  refine ⟨forget_steps s _ actions, hmodel, fun raw hraw => ?_, fun p hp => hcoherent.parsed hp,
    fun ds hds => ?_, hcoherent.cache_step⟩
  · rw [← hmodel]
    exact (hcoherent.response hraw).2
  · rw [← hmodel]
    exact hcoherent.documents hds

end Run
end SearchCriteria
