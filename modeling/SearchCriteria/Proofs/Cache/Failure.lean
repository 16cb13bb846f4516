import SearchCriteria.Proofs.Cache.Coherence

/-! Reads that fail. Whatever a criteria went through, a failing read leaves of it what a fork taken
before the read would have been. A failure comes from any layer of what was found, after the layers
below it were filled; a blank criteria is given back as it is, which is a fork as well because
nothing is ever found with a blank selector. -/
namespace SearchCriteria

def Evidence.unknown {σ : Type} (s : Service σ) : Evidence s where
  searched _ _ _ := True
  fetched _ _ _ _ := True
  of_search _ := trivial
  of_fetch _ := trivial
  keep_fetch _ _ := trivial

namespace Criteria

/-- What was found is filled from below: an answer where something restricts, what is understood of
it, and records for what is understood. -/
structure Layered (c : Criteria) : Prop where
  response : ∀ {raw}, c.cache.response = some raw → c.query.isBlank = false
  parsed : ∀ {p}, c.cache.parsed = some p →
    ∃ raw, c.cache.response = some raw ∧ ParsedResponse.parse raw = .ok p
  documents : ∀ {ds}, c.cache.documents = some ds →
    ∃ p, c.cache.parsed = some p ∧ (p.ids = [] → ds = [])

theorem layered_iff {σ : Type} {s : Service σ} {c : Criteria} (st : σ) :
    c.Layered ↔ Coherent (Evidence.unknown s) (c, st) := by
  constructor
  · intro h
    refine ⟨fun hraw => ⟨h.response hraw, trivial⟩, h.parsed, fun hds => ?_⟩
    obtain ⟨p, hp, hids⟩ := h.documents hds
    refine ⟨p, hp, ?_⟩
    split
    · next hnil => exact hids hnil
    · trivial
  · intro h
    refine ⟨fun hraw => (h.response hraw).1, h.parsed, fun hds => ?_⟩
    obtain ⟨p, hp, hids⟩ := h.documents hds
    refine ⟨p, hp, fun hnil => ?_⟩
    rwa [if_pos hnil] at hids

theorem layered_of_empty {c : Criteria} (h : c.cache = {}) : c.Layered := by
  constructor <;> simp [h]

/-- The criteria that operations and reads lead to, against any outside and any answers. -/
inductive Reachable : Criteria → Prop
  | start (m : Model) (q : SearchQuery) : Reachable { model := m, query := q }
  | fork {c : Criteria} (hc : Reachable c) : Reachable c.fork
  | apply {c : Criteria} (hc : Reachable c) (op : Operation) : Reachable (c.apply op)
  | withExtension {c : Criteria} (hc : Reachable c) (e : Extension) :
      Reachable (c.withExtension e)
  /-- An operation that the criteria carries; it drops what was found unless it asks for the same
  as before. What it finds itself it finds by reading. -/
  | complete {c : Criteria} (hc : Reachable c) {d : CriteriaDraft ExtensionOp}
      (h : d.cache = {} ∨ d.query = c.query ∧ d.cache = c.cache) : Reachable (c.complete d)
  | read {c : Criteria} (hc : Reachable c) {σ : Type} (s : Service σ) (st : σ) (kind : ReadKind) :
      Reachable (c.read s st kind).criteria

theorem Layered.congr {c other : Criteria} (h : c.Layered) (hquery : other.query = c.query)
    (hcache : other.cache = c.cache) : other.Layered := by
  constructor <;> rw [hcache]
  · rw [hquery]
    exact h.response
  · exact h.parsed
  · exact h.documents

theorem Layered.read {σ : Type} {c : Criteria} (h : c.Layered) (s : Service σ) (st : σ)
    (kind : ReadKind) : (c.read s st kind).criteria.Layered :=
  (layered_iff (c.read s st kind).state).2
    (Coherent.moves (moves_read s c st kind) ((layered_iff st).1 h))

theorem Reachable.layered {c : Criteria} (hc : c.Reachable) : c.Layered := by
  induction hc with
  | start m q => exact layered_of_empty rfl
  | fork hc ih => exact layered_of_empty rfl
  | apply hc op ih => exact layered_of_empty rfl
  | withExtension hc e ih => exact ih.congr rfl rfl
  | complete hc h ih =>
    rcases h with hempty | ⟨hquery, hcache⟩
    · exact layered_of_empty hempty
    · exact ih.congr hquery hcache
  | read hc s st kind ih => exact ih.read s st kind

/-- Only what was found tells a criteria from its fork. -/
theorem eq_fork_of_cache {c before : Criteria} (hfork : c.fork = before.fork)
    (hcache : c.cache = {}) : c = before.fork := by
  have hsame : c = c.fork := congrArg (Criteria.mk c.model c.query c.extensions) hcache
  rw [hsame, hfork]

theorem Layered.read_error {σ : Type} {s : Service σ} {c : Criteria} {st : σ} {kind : ReadKind}
    {e : CriteriaError} (hc : c.Layered) (h : (c.read s st kind).result = .error e) :
    (c.read s st kind).criteria = c.fork := by
  have hcoherent : Coherent (Evidence.unknown s) (c, st) := (layered_iff st).1 hc
  have hcache := hcoherent.clearsOnError_read kind e h
  exact eq_fork_of_cache (moves_read s c st kind).fork_eq hcache

end Criteria

namespace Run

theorem reachable_steps {σ : Type} (s : Service σ) {r : Run σ} (hr : r.criteria.Reachable)
    (actions : List Action) : (r.steps s actions).criteria.Reachable := by
  refine steps_keep (P := fun x => x.criteria.Reachable) (fun a hx => ?_) hr actions
  cases a with
  | chain op => exact hx.apply op
  | mergeCriteria other => exact hx.apply (.merge other.query)
  | withExtension e => exact hx.withExtension e
  | fork => exact hx.fork
  | read kind => exact hx.read s _ kind

end Run

namespace Criteria

/-- A read that fails leaves the fork that could have been taken before it, and what is done
afterwards goes as on that fork. No layer is ever kept without those below. -/
theorem read_error_eq_fork {σ : Type} {c : Criteria} (hc : c.Reachable) (s : Service σ) (st : σ)
    {kind : ReadKind} {e : CriteriaError} (h : (c.read s st kind).result = .error e) :
    let after := (c.read s st kind).criteria
    after = c.fork ∧
    (after.model = c.model ∧ after.selector = c.selector ∧ after.options = c.options ∧
      after.extensions = c.extensions) ∧
    (after.cache.response = none ∧ after.cache.parsed = none ∧ after.cache.documents = none) ∧
    c.Layered ∧
    ∀ found actions,
      let run := Run.steps s ⟨after, (c.read s st kind).state, found⟩ actions
      run = Run.steps s ⟨c.fork, (c.read s st kind).state, found⟩ actions ∧
        run.criteria.Layered := by
  intro after
  have hfork : after = c.fork := hc.layered.read_error h
  refine ⟨hfork, ?_, ?_, hc.layered, fun found actions => ⟨?_, ?_⟩⟩
  · rw [hfork]
    exact ⟨rfl, rfl, rfl, rfl⟩
  · rw [hfork]
    exact ⟨rfl, rfl, rfl⟩
  · rw [hfork]
  · exact (Run.reachable_steps s (hc.read s st kind) actions).layered

/-- An outside whose searches find two documents, and whose records are out of reach. -/
def storeDown : Service Nat where
  search _ _ _ n := (.ok (responseWithIds ["1", "2"]), n + 1)
  fetch _ _ n := (.error (.store "disk gone"), n + 1)
  failed _ _ _ n := n

def identified : Criteria :=
  ((Criteria.mk { id := 0, collection := "people" } { selector := "(a:1)" } [] {}).read
    storeDown 0 .ids).criteria

theorem read_error_eq_fork_storeDown :
    identified.Reachable ∧ identified.cache.parsed.map ParsedResponse.ids = some ["1", "2"] ∧
    (identified.read storeDown 1 .documents).result =
      .error (.queryFailed "Document store error: disk gone") ∧
    (identified.read storeDown 1 .documents).criteria = identified.fork ∧
    (identified.read storeDown 1 .documents).criteria.cache.response = none := by
  have hreachable : identified.Reachable := (Reachable.start _ _).read storeDown 0 .ids
  have hfails : (identified.read storeDown 1 .documents).result =
      .error (.queryFailed "Document store error: disk gone") := by rfl
  obtain ⟨hfork, -, ⟨hresponse, -⟩, -⟩ := read_error_eq_fork hreachable storeDown 1 hfails
  exact ⟨hreachable, by rfl, hfails, hfork, hresponse⟩

end Criteria
end SearchCriteria
