import Mathlib.Logic.Relation
import SearchCriteria.Session.Command

/-! What reads do, and runs over one criteria: steps of a chain and reads in any order,
against any outside. A read is a sequence of moves; each of them makes one request or looks
at one answer, and either keeps what it found or drops everything. -/
namespace SearchCriteria
namespace Criteria

variable {σ : Type}

theorem execute_blank {c : Criteria} (hb : c.query.isBlank = true) (s : Service σ) (st : σ) :
    c.execute s st = ⟨.error .emptySelector, c, st⟩ := by
  simp [execute, hb]

theorem execute_ok {s : Service σ} {c : Criteria} {st after : σ} {raw : Json}
    (hb : c.query.isBlank = false)
    (h : s.search c.model c.selector c.effectiveOptions st = (.ok raw, after)) :
    c.execute s st = ⟨.ok raw, { c with cache := { response := some raw } }, after⟩ := by
  simp [execute, hb, h]

theorem execute_error {s : Service σ} {c : Criteria} {st after : σ} {e : BackendError}
    (hb : c.query.isBlank = false)
    (h : s.search c.model c.selector c.effectiveOptions st = (.error e, after)) :
    c.execute s st = c.fail s e.message after := by
  simp only [execute, hb, h]
  rfl

theorem ensureResponse_cached {c : Criteria} {raw : Json} (h : c.cache.response = some raw)
    (s : Service σ) (st : σ) : c.ensureResponse s st = ⟨.ok raw, c, st⟩ := by
  simp [ensureResponse, h]

theorem ensureResponse_fresh {c : Criteria} (h : c.cache.response = none) (s : Service σ)
    (st : σ) : c.ensureResponse s st = c.execute s st := by
  simp [ensureResponse, h]

/-- The step from an answer to what it says, which is kept if it is understood. -/
def understand (s : Service σ) (raw : Json) (c : Criteria) (st : σ) : Reading σ ParsedResponse :=
  match ParsedResponse.parse raw with
  | .ok p => ⟨.ok p, { c with cache := { c.cache with parsed := some p } }, st⟩
  | .error fault => c.fail s fault.message st

theorem understand_ok {raw : Json} {p : ParsedResponse} (h : ParsedResponse.parse raw = .ok p)
    (s : Service σ) (c : Criteria) (st : σ) :
    understand s raw c st = ⟨.ok p, { c with cache := { c.cache with parsed := some p } }, st⟩ := by
  simp [understand, h]

theorem understand_error {raw : Json} {fault : ResponseFault}
    (h : ParsedResponse.parse raw = .error fault) (s : Service σ) (c : Criteria) (st : σ) :
    understand s raw c st = c.fail s fault.message st := by
  simp [understand, h]

theorem parsed_cached {c : Criteria} {p : ParsedResponse} (h : c.cache.parsed = some p)
    (s : Service σ) (st : σ) : c.parsed s st = ⟨.ok p, c, st⟩ := by
  simp [parsed, h]

theorem parsed_fresh {c : Criteria} (h : c.cache.parsed = none) (s : Service σ) (st : σ) :
    c.parsed s st = (c.ensureResponse s st).bind (understand s) := by
  simp only [parsed, h]
  rfl

/-- The step from the matches to their records, which are fetched if there are any. -/
def gather (s : Service σ) (p : ParsedResponse) (c : Criteria) (st : σ) :
    Reading σ (List String) :=
  if p.ids = [] then ⟨.ok [], { c with cache := { c.cache with documents := some [] } }, st⟩
  else
    match s.fetch c.model p.ids st with
    | (.ok ds, st) => ⟨.ok ds, { c with cache := { c.cache with documents := some ds } }, st⟩
    | (.error e, st) => c.fail s e.message st

theorem gather_nil {p : ParsedResponse} (hp : p.ids = []) (s : Service σ) (c : Criteria) (st : σ) :
    gather s p c st = ⟨.ok [], { c with cache := { c.cache with documents := some [] } }, st⟩ := by
  simp [gather, hp]

theorem gather_ok {s : Service σ} {p : ParsedResponse} {c : Criteria} {st after : σ}
    {ds : List String} (hp : p.ids ≠ []) (h : s.fetch c.model p.ids st = (.ok ds, after)) :
    gather s p c st =
      ⟨.ok ds, { c with cache := { c.cache with documents := some ds } }, after⟩ := by
  simp [gather, hp, h]

theorem gather_error {s : Service σ} {p : ParsedResponse} {c : Criteria} {st after : σ}
    {e : BackendError} (hp : p.ids ≠ []) (h : s.fetch c.model p.ids st = (.error e, after)) :
    gather s p c st = c.fail s e.message after := by
  simp [gather, hp, h]

theorem documents_cached {c : Criteria} {ds : List String} (h : c.cache.documents = some ds)
    (s : Service σ) (st : σ) : c.documents s st = ⟨.ok ds, c, st⟩ := by
  simp [documents, h]

theorem documents_fresh {c : Criteria} (h : c.cache.documents = none) (s : Service σ) (st : σ) :
    c.documents s st = (c.parsed s st).bind (gather s) := by
  simp only [documents, h, List.isEmpty_iff]
  rfl

def read (s : Service σ) (c : Criteria) (st : σ) : ReadKind → Reading σ Finding
  | .total => (c.total s st).map .total
  | .ids => (c.documentIds s st).map .ids
  | .hits => (c.hits s st).map .hits
  | .documents => (c.documents s st).map .records
  | .execute => (c.execute s st).map .raw

end Criteria

namespace Reading

variable {σ α β : Type}

@[simp] theorem map_criteria (f : α → β) (r : Reading σ α) : (r.map f).criteria = r.criteria := rfl
@[simp] theorem map_state (f : α → β) (r : Reading σ α) : (r.map f).state = r.state := rfl
@[simp] theorem map_result (f : α → β) (r : Reading σ α) : (r.map f).result = r.result.map f := rfl

theorem bind_ok {r : Reading σ α} {a : α} (h : r.result = .ok a)
    (f : α → Criteria → σ → Reading σ β) : r.bind f = f a r.criteria r.state := by
  simp [bind, h]

theorem bind_error {r : Reading σ α} {e : CriteriaError} (h : r.result = .error e)
    (f : α → Criteria → σ → Reading σ β) : r.bind f = ⟨.error e, r.criteria, r.state⟩ := by
  simp [bind, h]

end Reading

/-- The moves that reads are made of. -/
inductive Move {σ : Type} (s : Service σ) : Criteria × σ → Criteria × σ → Prop
  | search {c : Criteria} {st after : σ} {raw : Json} (hb : c.query.isBlank = false)
      (h : s.search c.model c.selector c.effectiveOptions st = (.ok raw, after)) :
      Move s (c, st) ({ c with cache := { response := some raw } }, after)
  | refuse {c : Criteria} {st after : σ} {e : BackendError} (hb : c.query.isBlank = false)
      (h : s.search c.model c.selector c.effectiveOptions st = (.error e, after)) :
      Move s (c, st) (c.fork, s.failed c.model c.selector e.message after)
  | understand {c : Criteria} {st : σ} {raw : Json} {p : ParsedResponse}
      (hc : c.cache.response = some raw) (hn : c.cache.parsed = none)
      (h : ParsedResponse.parse raw = .ok p) :
      Move s (c, st) ({ c with cache := { c.cache with parsed := some p } }, st)
  | reject {c : Criteria} {st : σ} {raw : Json} {fault : ResponseFault}
      (hc : c.cache.response = some raw) (h : ParsedResponse.parse raw = .error fault) :
      Move s (c, st) (c.fork, s.failed c.model c.selector fault.message st)
  | skip {c : Criteria} {st : σ} {p : ParsedResponse} (hc : c.cache.parsed = some p)
      (hp : p.ids = []) :
      Move s (c, st) ({ c with cache := { c.cache with documents := some [] } }, st)
  | fetch {c : Criteria} {st after : σ} {p : ParsedResponse} {ds : List String}
      (hc : c.cache.parsed = some p) (hp : p.ids ≠ [])
      (h : s.fetch c.model p.ids st = (.ok ds, after)) :
      Move s (c, st) ({ c with cache := { c.cache with documents := some ds } }, after)
  | lose {c : Criteria} {st after : σ} {p : ParsedResponse} {e : BackendError}
      (hc : c.cache.parsed = some p) (hp : p.ids ≠ [])
      (h : s.fetch c.model p.ids st = (.error e, after)) :
      Move s (c, st) (c.fork, s.failed c.model c.selector e.message after)

namespace Criteria

open Relation

variable {σ : Type}

/-- The reading leads from `c` and `st` to where it ends by moves. -/
def Moves {α : Type} (s : Service σ) (c : Criteria) (st : σ) (r : Reading σ α) : Prop :=
  ReflTransGen (Move s) (c, st) (r.criteria, r.state)

theorem Moves.bind {α β : Type} {s : Service σ} {c : Criteria} {st : σ} {r : Reading σ α}
    {f : α → Criteria → σ → Reading σ β} (hr : Moves s c st r)
    (hf : ∀ a, r.result = .ok a → Moves s r.criteria r.state (f a r.criteria r.state)) :
    Moves s c st (r.bind f) := by
  cases h : r.result with
  | ok a => rw [Reading.bind_ok h]; exact ReflTransGen.trans hr (hf a h)
  | error e => rw [Reading.bind_error h]; exact hr

theorem moves_execute (s : Service σ) (c : Criteria) (st : σ) : Moves s c st (c.execute s st) := by
  cases hb : c.query.isBlank with
  | true => rw [execute_blank hb]; exact .refl
  | false =>
    rcases h : s.search c.model c.selector c.effectiveOptions st with ⟨e | raw, after⟩
    · rw [execute_error hb h]; exact .single (.refuse hb h)
    · rw [execute_ok hb h]; exact .single (.search hb h)

theorem cache_execute {s : Service σ} {c : Criteria} {st : σ} {raw : Json}
    (h : (c.execute s st).result = .ok raw) :
    (c.execute s st).criteria.cache = { response := some raw } := by
  cases hb : c.query.isBlank with
  | true => simp [execute_blank hb] at h
  | false =>
    rcases hs : s.search c.model c.selector c.effectiveOptions st with ⟨e | answer, after⟩
    · simp [execute_error hb hs, fail] at h
    · simp_all [execute_ok hb hs]

theorem moves_ensureResponse (s : Service σ) (c : Criteria) (st : σ) :
    Moves s c st (c.ensureResponse s st) := by
  cases h : c.cache.response with
  | some raw => rw [ensureResponse_cached h]; exact .refl
  | none => rw [ensureResponse_fresh h]; exact moves_execute s c st

theorem response_ensureResponse {s : Service σ} {c : Criteria} {st : σ} {raw : Json}
    (h : (c.ensureResponse s st).result = .ok raw) :
    (c.ensureResponse s st).criteria.cache.response = some raw := by
  cases hc : c.cache.response with
  | some answer => simp_all [ensureResponse_cached hc]
  | none =>
    rw [ensureResponse_fresh hc] at h ⊢
    rw [cache_execute h]

theorem parsed_ensureResponse {s : Service σ} {c : Criteria} {st : σ} {raw : Json}
    (hn : c.cache.parsed = none) (h : (c.ensureResponse s st).result = .ok raw) :
    (c.ensureResponse s st).criteria.cache.parsed = none := by
  cases hc : c.cache.response with
  | some answer => rw [ensureResponse_cached hc]; exact hn
  | none =>
    rw [ensureResponse_fresh hc] at h ⊢
    rw [cache_execute h]

theorem moves_understand {s : Service σ} {raw : Json} {c : Criteria} (st : σ)
    (hc : c.cache.response = some raw) (hn : c.cache.parsed = none) :
    Moves s c st (understand s raw c st) := by
  cases h : ParsedResponse.parse raw with
  | ok p => rw [understand_ok h]; exact .single (.understand hc hn h)
  | error fault => rw [understand_error h]; exact .single (.reject hc h)

theorem moves_parsed (s : Service σ) (c : Criteria) (st : σ) : Moves s c st (c.parsed s st) := by
  cases h : c.cache.parsed with
  | some p => rw [parsed_cached h]; exact .refl
  | none =>
    rw [parsed_fresh h]
    refine (moves_ensureResponse s c st).bind fun raw hraw => ?_
    exact moves_understand _ (response_ensureResponse hraw) (parsed_ensureResponse h hraw)

theorem cache_parsed {s : Service σ} {c : Criteria} {st : σ} {p : ParsedResponse}
    (h : (c.parsed s st).result = .ok p) : (c.parsed s st).criteria.cache.parsed = some p := by
  cases hc : c.cache.parsed with
  | some q => simp_all [parsed_cached hc]
  | none =>
    rw [parsed_fresh hc] at h ⊢
    cases hr : (c.ensureResponse s st).result with
    | error e => simp [Reading.bind_error hr] at h
    | ok raw =>
      rw [Reading.bind_ok hr] at h ⊢
      cases hp : ParsedResponse.parse raw with
      | ok q => simp_all [understand_ok hp]
      | error fault => simp [understand_error hp, fail] at h

theorem cache_documents {s : Service σ} {c : Criteria} {st : σ} {ds : List String}
    (h : (c.documents s st).result = .ok ds) :
    (c.documents s st).criteria.cache.documents = some ds := by
  cases hd : c.cache.documents with
  | some found => simp_all [documents_cached hd]
  | none =>
    rw [documents_fresh hd] at h ⊢
    cases hr : (c.parsed s st).result with
    | error e => simp [Reading.bind_error hr] at h
    | ok p =>
      rw [Reading.bind_ok hr] at h ⊢
      by_cases hp : p.ids = []
      · simp_all [gather_nil hp]
      · rcases hf : s.fetch (c.parsed s st).criteria.model p.ids (c.parsed s st).state
          with ⟨e | found, after⟩
        · simp [gather_error hp hf, fail] at h
        · simp_all [gather_ok hp hf]

theorem moves_gather {s : Service σ} {p : ParsedResponse} {c : Criteria} (st : σ)
    (hc : c.cache.parsed = some p) : Moves s c st (gather s p c st) := by
  by_cases hp : p.ids = []
  · rw [gather_nil hp]; exact .single (.skip hc hp)
  · rcases h : s.fetch c.model p.ids st with ⟨e | ds, after⟩
    · rw [gather_error hp h]; exact .single (.lose hc hp h)
    · rw [gather_ok hp h]; exact .single (.fetch hc hp h)

theorem moves_documents (s : Service σ) (c : Criteria) (st : σ) :
    Moves s c st (c.documents s st) := by
  cases h : c.cache.documents with
  | some ds => rw [documents_cached h]; exact .refl
  | none =>
    rw [documents_fresh h]
    exact (moves_parsed s c st).bind fun p hp => moves_gather _ (cache_parsed hp)

/-- Every read is a sequence of moves. -/
theorem moves_read (s : Service σ) (c : Criteria) (st : σ) (kind : ReadKind) :
    Moves s c st (c.read s st kind) := by
  cases kind with
  | total => exact moves_parsed s c st
  | ids => exact moves_parsed s c st
  | hits => exact moves_parsed s c st
  | documents => exact moves_documents s c st
  | execute => exact moves_execute s c st

theorem Moves.keep {α : Type} {s : Service σ} {P : Criteria × σ → Prop}
    (hmove : ∀ {x y}, Move s x y → P x → P y) {c : Criteria} {st : σ} {r : Reading σ α}
    (h : Moves s c st r) (hc : P (c, st)) : P (r.criteria, r.state) := by
  unfold Moves at h
  generalize (r.criteria, r.state) = y at h ⊢
  induction h with
  | refl => exact hc
  | tail _ hxy ih => exact hmove hxy ih

theorem Moves.fork_eq {α : Type} {s : Service σ} {c : Criteria} {st : σ} {r : Reading σ α}
    (h : Moves s c st r) : r.criteria.fork = c.fork := by
  refine h.keep (P := fun x => x.1.fork = c.fork) (fun hxy hx => ?_) rfl
  cases hxy <;> exact hx

theorem Moves.query_eq {α : Type} {s : Service σ} {c : Criteria} {st : σ} {r : Reading σ α}
    (h : Moves s c st r) : r.criteria.query = c.query := by
  have hf := congrArg Criteria.query h.fork_eq
  exact hf

theorem Moves.model_eq {α : Type} {s : Service σ} {c : Criteria} {st : σ} {r : Reading σ α}
    (h : Moves s c st r) : r.criteria.model = c.model := by
  have hf := congrArg Criteria.model h.fork_eq
  exact hf

end Criteria

/-- What is done with a criteria that is not used up. -/
inductive Action
  | chain (op : Operation)
  | mergeCriteria (other : Criteria)
  | withExtension (e : Extension)
  | fork
  | read (kind : ReadKind)

/-- Where a run over one criteria stands, and what its reads found so far. -/
structure Run (σ : Type) where
  criteria : Criteria
  state : σ
  found : List (Except CriteriaError Finding) := []

namespace Run

variable {σ : Type}

def start (m : Model) (q : SearchQuery) (st : σ) : Run σ := ⟨{ model := m, query := q }, st, []⟩

def step (s : Service σ) (r : Run σ) : Action → Run σ
  | .chain op => { r with criteria := r.criteria.apply op }
  | .mergeCriteria other => { r with criteria := r.criteria.merge other.query }
  | .withExtension e => { r with criteria := r.criteria.withExtension e }
  | .fork => { r with criteria := r.criteria.fork }
  | .read kind =>
    let reading := r.criteria.read s r.state kind
    ⟨reading.criteria, reading.state, r.found ++ [reading.result]⟩

def steps (s : Service σ) (r : Run σ) (actions : List Action) : Run σ := actions.foldl (step s) r

@[simp] theorem steps_nil (s : Service σ) (r : Run σ) : r.steps s [] = r := rfl
@[simp] theorem steps_cons (s : Service σ) (r : Run σ) (a : Action) (actions : List Action) :
    r.steps s (a :: actions) = (r.step s a).steps s actions := rfl

theorem steps_keep {s : Service σ} {P : Run σ → Prop} (hstep : ∀ {r} a, P r → P (r.step s a))
    {r : Run σ} (hr : P r) (actions : List Action) : P (r.steps s actions) := by
  induction actions generalizing r with
  | nil => exact hr
  | cons a actions ih => exact ih (hstep a hr)

theorem model_step (s : Service σ) (r : Run σ) (a : Action) :
    (r.step s a).criteria.model = r.criteria.model := by
  cases a with
  | read kind => exact (Criteria.moves_read s r.criteria r.state kind).model_eq
  | _ => rfl

theorem model_steps (s : Service σ) (r : Run σ) (actions : List Action) :
    (r.steps s actions).criteria.model = r.criteria.model :=
  steps_keep (P := fun x => x.criteria.model = r.criteria.model)
    (fun a hx => (model_step s _ a).trans hx) rfl actions

end Run
end SearchCriteria
