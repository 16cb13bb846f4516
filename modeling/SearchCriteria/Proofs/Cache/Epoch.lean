import SearchCriteria.Proofs.Cache.Requests
import SearchCriteria.Proofs.Selector.NormalForm

/-! Epochs of a criteria: an epoch lasts until the criteria is changed, searched explicitly, or a
read fails. What was found in an epoch stays, so that all the reads of an epoch together search
once and fetch once at most; the proof counts the requests made so far together with those that
are still due. -/
namespace SearchCriteria

namespace Criteria

/-- The searches that the criteria may still ask for before its epoch ends. -/
def searchesDue (c : Criteria) : Nat := c.cache.response.isNone.toNat

def fetchesDue (c : Criteria) : Nat := c.cache.documents.isNone.toNat

theorem wantsSearch_le (c : Criteria) : c.wantsSearch.toNat ≤ c.searchesDue := by
  rw [wantsSearch, searchesDue]
  cases c.query.isBlank <;> simp

theorem wantsFetch_le {σ : Type} (s : Service σ) (c : Criteria) (st : σ) :
    (c.wantsFetch s st).toNat ≤ c.fetchesDue := by
  rw [wantsFetch, fetchesDue]
  cases c.cache.documents.isNone
  · simp
  · exact Bool.toNat_le _

end Criteria

/-- The requests made so far and those still due are no more than they were. -/
structure Within (c : Criteria) (h : History) (c' : Criteria) (h' : History) : Prop where
  searches : h'.searches + c'.searchesDue ≤ h.searches + c.searchesDue
  fetches : h'.fetches + c'.fetchesDue ≤ h.fetches + c.fetchesDue

namespace Within

variable {c c' c'' : Criteria} {h h' h'' : History}

theorem refl (c : Criteria) (h : History) : Within c h c h := ⟨Nat.le_refl _, Nat.le_refl _⟩

theorem trans (hx : Within c h c' h') (hy : Within c' h' c'' h'') : Within c h c'' h'' :=
  ⟨Nat.le_trans hy.searches hx.searches, Nat.le_trans hy.fetches hx.fetches⟩

end Within

namespace Criteria

variable {σ : Type} {s : Service σ} {c : Criteria} {st : History × σ} {kind : ReadKind}

theorem requests_read_le (hc : Coherent s.evidence (c, st)) (hkind : kind ≠ .execute) :
    (c.read s.recorded st kind).state.1.searches ≤ st.1.searches + c.searchesDue ∧
    (c.read s.recorded st kind).state.1.fetches ≤ st.1.fetches + c.fetchesDue := by
  obtain ⟨hsearches, hfetches⟩ := spends_read hc kind
  rw [if_neg hkind] at hsearches
  have hsearch := c.wantsSearch_le
  have hfetch := wantsFetch_le s.recorded c st
  refine ⟨by omega, ?_⟩
  rw [hfetches]
  split <;> omega

theorem kept_parsed {p : ParsedResponse} (hc : Coherent s.evidence (c, st))
    (h : (c.parsed s.recorded st).result = .ok p) :
    (c.parsed s.recorded st).criteria.searchesDue = 0 ∧
    (c.parsed s.recorded st).criteria.fetchesDue ≤ c.fetchesDue := by
  have hafter := Coherent.moves (moves_parsed s.recorded c st) hc
  have hresponse := response_of_parsed hafter (cache_parsed h)
  refine ⟨by rw [searchesDue, hresponse, Bool.toNat_false], ?_⟩
  cases hd : c.cache.documents with
  | none =>
    rw [fetchesDue, fetchesDue, hd]
    exact Bool.toNat_le _
  | some ds =>
    -- Documents are kept only with what they were found by.
    obtain ⟨q, hq, -⟩ := hc.documents hd
    have hsame : (c.parsed s.recorded st).criteria = c := by rw [parsed_cached hq]
    exact Nat.le_of_eq (congrArg fetchesDue hsame)

theorem kept_documents {ds : List String} (hc : Coherent s.evidence (c, st))
    (h : (c.documents s.recorded st).result = .ok ds) :
    (c.documents s.recorded st).criteria.searchesDue = 0 ∧
    (c.documents s.recorded st).criteria.fetchesDue = 0 := by
  have hafter := Coherent.moves (moves_documents s.recorded c st) hc
  have hdocuments := cache_documents h
  obtain ⟨p, hp, -⟩ := hafter.documents hdocuments
  have hresponse := response_of_parsed hafter hp
  exact ⟨by rw [searchesDue, hresponse, Bool.toNat_false], by simp [fetchesDue, hdocuments]⟩

theorem within_read {finding : Finding} (hc : Coherent s.evidence (c, st))
    (hkind : kind ≠ .execute) (h : (c.read s.recorded st kind).result = .ok finding) :
    Within c st.1 (c.read s.recorded st kind).criteria (c.read s.recorded st kind).state.1 := by
  obtain ⟨hsearch, hfetch⟩ := requests_read_le hc hkind
  have hspent := (spends_read hc kind).fetches
  have hparsed (hnever : kind ≠ .documents) {p : ParsedResponse}
      (hp : (c.parsed s.recorded st).result = .ok p) :
      Within c st.1 (c.parsed s.recorded st).criteria (c.read s.recorded st kind).state.1 := by
    obtain ⟨hsearches, hfetches⟩ := kept_parsed hc hp
    rw [if_neg hnever] at hspent
    exact ⟨by rw [hsearches]; exact hsearch, by rw [hspent]; omega⟩
  cases kind with
  | execute => exact absurd rfl hkind
  | documents =>
    cases hds : (c.documents s.recorded st).result with
    | error e => simp [read, hds, Except.map] at h
    | ok ds =>
      obtain ⟨hsearches, hfetches⟩ := kept_documents hc hds
      exact ⟨by rw [read, Reading.map_criteria, hsearches]; exact hsearch,
        by rw [read, Reading.map_criteria, hfetches]; exact hfetch⟩
  | _ =>
    cases hp : (c.parsed s.recorded st).result with
    | error e => simp [read, total, documentIds, hits, hp, Except.map] at h
    | ok p => exact hparsed (by decide) hp

end Criteria

def Action.operation? : Action → Option Operation
  | chain op => some op
  | mergeCriteria other => some (.merge other.query)
  | _ => none

namespace Run

variable {σ : Type}

def searches (r : Run (History × σ)) : Nat := r.state.1.searches
def fetches (r : Run (History × σ)) : Nat := r.state.1.fetches

/-- What ends an epoch: a step of the chain, be it one that adds nothing, going on with a fork,
an explicit search, and a read that fails. -/
inductive Boundary (s : Service σ) (r : Run σ) : Action → Prop
  | operation {a : Action} {op : Operation} (h : a.operation? = some op) : Boundary s r a
  | fork : Boundary s r .fork
  | execute : Boundary s r (.read .execute)
  | failure {kind : ReadKind} {e : CriteriaError}
      (h : (r.criteria.read s r.state kind).result = .error e) : Boundary s r (.read kind)

def SameEpoch (s : Service σ) : Run σ → List Action → Prop
  | _, [] => True
  | r, a :: actions => ¬ Boundary s r a ∧ SameEpoch s (r.step s a) actions

variable {s : Service σ} {r : Run (History × σ)}

theorem within_step (hr : Coherent s.evidence (r.criteria, r.state)) {a : Action}
    (ha : ¬ Boundary s.recorded r a) :
    Within r.criteria r.state.1 (r.step s.recorded a).criteria (r.step s.recorded a).state.1 := by
  cases a with
  | chain op => exact absurd (.operation rfl) ha
  | mergeCriteria other => exact absurd (.operation rfl) ha
  | fork => exact absurd .fork ha
  | withExtension e => exact ⟨Nat.le_refl _, Nat.le_refl _⟩
  | read kind =>
    have hkind : kind ≠ .execute := by
      rintro rfl
      exact ha .execute
    cases h : (r.criteria.read s.recorded r.state kind).result with
    | error e => exact absurd (.failure h) ha
    | ok finding => exact Criteria.within_read hr hkind h

theorem within_steps (hr : Coherent s.evidence (r.criteria, r.state)) {epoch : List Action}
    (h : r.SameEpoch s.recorded epoch) :
    Within r.criteria r.state.1 (r.steps s.recorded epoch).criteria
      (r.steps s.recorded epoch).state.1 := by
  induction epoch generalizing r with
  | nil => exact .refl ..
  | cons a actions ih =>
    obtain ⟨ha, hrest⟩ := h
    exact (within_step hr ha).trans (ih (Coherent.step r a hr) hrest)

/-- An epoch asks for one search and one fetch at most, and so does it together with one more
read, which may fail. -/
theorem epoch_le (hr : Coherent s.evidence (r.criteria, r.state)) {epoch : List Action}
    (h : r.SameEpoch s.recorded epoch) :
    let e := r.steps s.recorded epoch
    (e.searches ≤ r.searches + 1 ∧ e.fetches ≤ r.fetches + 1) ∧
    ∀ kind, kind ≠ .execute →
      (e.step s.recorded (.read kind)).searches ≤ r.searches + 1 ∧
      (e.step s.recorded (.read kind)).fetches ≤ r.fetches + 1 := by
  intro e
  have hwithin := within_steps hr h
  have hsearches : e.searches + e.criteria.searchesDue ≤ r.searches + 1 :=
    Nat.le_trans hwithin.searches (Nat.add_le_add_left (Bool.toNat_le _) _)
  have hfetches : e.fetches + e.criteria.fetchesDue ≤ r.fetches + 1 :=
    Nat.le_trans hwithin.fetches (Nat.add_le_add_left (Bool.toNat_le _) _)
  refine ⟨⟨?_, ?_⟩, fun kind hkind => ?_⟩
  · exact Nat.le_trans (Nat.le_add_right _ _) hsearches
  · exact Nat.le_trans (Nat.le_add_right _ _) hfetches
  · have he : Coherent s.evidence (e.criteria, e.state) := Coherent.steps r epoch hr
    obtain ⟨hsearch, hfetch⟩ := Criteria.requests_read_le he hkind
    exact ⟨Nat.le_trans hsearch hsearches, Nat.le_trans hfetch hfetches⟩

theorem step_operation {σ : Type} (s : Service σ) (r : Run σ) {a : Action} {op : Operation}
    (h : a.operation? = some op) :
    (r.step s a).criteria = r.criteria.apply op ∧ (r.step s a).state = r.state := by
  cases a <;> simp_all [Action.operation?, step, Criteria.merge]

theorem steps_quiet {σ : Type} (s : Service σ) {r : Run σ} {quiet : List Action}
    (hquiet : ∀ kind, .read kind ∉ quiet) (h : r.criteria.cache = {}) :
    (r.steps s quiet).criteria.cache = {} ∧ (r.steps s quiet).state = r.state := by
  induction quiet generalizing r with
  | nil => exact ⟨h, rfl⟩
  | cons a quiet ih =>
    have hrest : ∀ kind, .read kind ∉ quiet := fun kind hk => hquiet kind (.tail _ hk)
    cases a with
    | read kind => exact absurd (.head _) (hquiet kind)
    | withExtension e => exact ih hrest h
    | _ => exact ih hrest rfl

theorem isBlank_step {σ : Type} {s : Service σ} {r : Run σ} (a : Action)
    (h : r.criteria.query.isBlank = false) : (r.step s a).criteria.query.isBlank = false := by
  cases a with
  | chain op => exact SearchQuery.isBlank_apply h op
  | mergeCriteria other => exact SearchQuery.isBlank_apply h _
  | read kind =>
    have hquery := (Criteria.moves_read s r.criteria r.state kind).query_eq
    exact (congrArg SearchQuery.isBlank hquery).trans h
  | _ => exact h

theorem searches_first_read {a : Action} {op : Operation} (h : a.operation? = some op)
    {quiet : List Action} (hquiet : ∀ kind, .read kind ∉ quiet) {kind : ReadKind}
    (hkind : kind ≠ .execute) :
    let e := (r.step s.recorded a).steps s.recorded quiet
    e.criteria.query.isBlank = false →
    (e.step s.recorded (.read kind)).searches = r.searches + 1 := by
  intro e hb
  obtain ⟨hcriteria, hstate⟩ := step_operation s.recorded r h
  have hstep : (r.step s.recorded a).criteria.cache = {} := by
    rw [hcriteria]
    rfl
  obtain ⟨hcache, hsame⟩ := steps_quiet s.recorded hquiet hstep
  have hcoherent : Coherent s.evidence (e.criteria, e.state) := Coherent.of_empty hcache _
  have hwants : e.criteria.wantsSearch = true := by
    rw [Criteria.wantsSearch, hb, hcache]
    rfl
  have hbefore : e.state.1.searches = r.searches := by
    rw [hsame, hstate]
    rfl
  have hread : (e.step s.recorded (.read kind)).searches = e.state.1.searches + _ :=
    (Criteria.spends_read hcoherent kind).searches
  rw [hread, if_neg hkind, hwants, hbefore]
  rfl

/-- Between two steps of a chain there is one search and one fetch at most, and neither without
need; a blank selector is never searched. -/
theorem requests_per_epoch (s : Service σ) (m : Model) (q : SearchQuery) (st : σ)
    (actions : List Action) :
    let r := (start m q (([], st) : History × σ)).steps s.recorded actions
    let c := r.criteria
    r.forget = (start m q st).steps s actions ∧
    (∀ call answer, .searched call answer ∈ r.state.1 → Text.isBlank call.selector = false) ∧
    (∀ kind, (r.step s.recorded (.read kind)).searches = r.searches +
      if c.query.isBlank = false ∧ (kind = .execute ∨ c.cache.response.isNone) then 1 else 0) ∧
    (∀ kind, (r.step s.recorded (.read kind)).fetches = r.fetches +
      if kind = .documents ∧ c.wantsFetch s.recorded r.state then 1 else 0) ∧
    (c.wantsFetch s.recorded r.state = true ↔
      c.cache.documents = none ∧
        ∃ p, (c.parsed s.recorded r.state).result = .ok p ∧ p.ids ≠ []) ∧
    -- An epoch, and then one more read, which may fail.
    (∀ epoch, r.SameEpoch s.recorded epoch →
      let e := r.steps s.recorded epoch
      (e.searches ≤ r.searches + 1 ∧ e.fetches ≤ r.fetches + 1) ∧
      ∀ kind, kind ≠ .execute →
        (e.step s.recorded (.read kind)).searches ≤ r.searches + 1 ∧
        (e.step s.recorded (.read kind)).fetches ≤ r.fetches + 1) ∧
    -- A step of the chain, after which nothing is read until `kind`.
    (∀ a op quiet, a.operation? = some op → (∀ kind, .read kind ∉ quiet) →
      let e := (r.step s.recorded a).steps s.recorded quiet
      (c.query.isBlank = false → e.criteria.query.isBlank = false) ∧
      ∀ kind, kind ≠ .execute → e.criteria.query.isBlank = false →
        (e.step s.recorded (.read kind)).searches = r.searches + 1) := by
  intro r c
  have hcoherent : Coherent s.evidence (c, r.state) :=
    Coherent.steps _ actions (Coherent.of_empty rfl _)
  have hnoneBlank : r.state.1.NoneBlank :=
    steps_keep (P := fun x : Run (History × σ) => x.state.1.NoneBlank) History.NoneBlank.step .nil
      actions
  refine ⟨forget_steps s _ actions, hnoneBlank, fun kind => ?_, fun kind => ?_,
    c.wantsFetch_iff s.recorded r.state, fun epoch => epoch_le hcoherent,
    fun a op quiet ha hquiet =>
      ⟨fun hb => ?_, fun kind hkind => searches_first_read ha hquiet hkind⟩⟩
  · refine (Criteria.spends_read hcoherent kind).searches.trans (congrArg _ ?_)
    by_cases hkind : kind = .execute
    · cases hb : c.query.isBlank <;> simp [hkind]
    · cases hb : c.query.isBlank <;> cases hn : c.cache.response <;>
        simp [Criteria.wantsSearch, hkind, hb, hn]
  · refine (Criteria.spends_read hcoherent kind).fetches.trans (congrArg _ ?_)
    by_cases hkind : kind = .documents <;>
      cases hw : c.wantsFetch s.recorded r.state <;> simp [hkind]
  · exact steps_keep (P := fun x => x.criteria.query.isBlank = false) isBlank_step
      (isBlank_step a hb) quiet

end Run
end SearchCriteria
