import SearchCriteria.Criteria.Basic

/-! Reading a criteria: searching, parsing and fetching, each only when it is needed.
What a read finds stays with the criteria until the next step; a read that fails leaves
nothing behind, and a blank criteria is never searched. -/
namespace SearchCriteria

/-- The outside of a criteria, over the states `σ` that it passes through. -/
structure Service (σ : Type) where
  search : Model → String → QueryOptions → σ → Except BackendError Json × σ
  fetch : Model → List String → σ → Except BackendError (List String) × σ
  failed : Model → String → String → σ → σ

/-- The result of a read, and what it left of the criteria and of the outside. -/
structure Reading (σ α : Type) where
  result : Except CriteriaError α
  criteria : Criteria
  state : σ

namespace Reading

variable {σ α β : Type}

def map (f : α → β) (r : Reading σ α) : Reading σ β := { r with result := r.result.map f }

/-- Goes on with a result where there is one. -/
def bind (r : Reading σ α) (f : α → Criteria → σ → Reading σ β) : Reading σ β :=
  match r.result with
  | .ok a => f a r.criteria r.state
  | .error e => ⟨.error e, r.criteria, r.state⟩

end Reading

namespace Criteria

variable {σ : Type}

/-- Gives up a read: what was found is dropped and the failure reported. -/
def fail {α : Type} (s : Service σ) (c : Criteria) (reason : String) (st : σ) : Reading σ α :=
  ⟨.error (.queryFailed reason), c.fork, s.failed c.model c.selector reason st⟩

def execute (s : Service σ) (c : Criteria) (st : σ) : Reading σ Json :=
  if c.query.isBlank then ⟨.error .emptySelector, c, st⟩
  else
    match s.search c.model c.selector c.effectiveOptions st with
    | (.ok raw, st) => ⟨.ok raw, { c with cache := { response := some raw } }, st⟩
    | (.error e, st) => c.fork.fail s e.message st

/-- The answer found before, else the one of a new search. -/
def ensureResponse (s : Service σ) (c : Criteria) (st : σ) : Reading σ Json :=
  match c.cache.response with
  | some raw => ⟨.ok raw, c, st⟩
  | none => c.execute s st

def parsed (s : Service σ) (c : Criteria) (st : σ) : Reading σ ParsedResponse :=
  match c.cache.parsed with
  | some p => ⟨.ok p, c, st⟩
  | none =>
    (c.ensureResponse s st).bind fun raw c st =>
      match ParsedResponse.parse raw with
      | .ok p => ⟨.ok p, { c with cache := { c.cache with parsed := some p } }, st⟩
      | .error fault => c.fail s fault.message st

def total (s : Service σ) (c : Criteria) (st : σ) : Reading σ UInt64 :=
  (c.parsed s st).map ParsedResponse.total

def documentIds (s : Service σ) (c : Criteria) (st : σ) : Reading σ (List String) :=
  (c.parsed s st).map ParsedResponse.ids

def hits (s : Service σ) (c : Criteria) (st : σ) : Reading σ (List Document) :=
  (c.parsed s st).map ParsedResponse.docs

/-- The records of the matches; the store is left alone when nothing matches. -/
def documents (s : Service σ) (c : Criteria) (st : σ) : Reading σ (List String) :=
  match c.cache.documents with
  | some ds => ⟨.ok ds, c, st⟩
  | none =>
    (c.parsed s st).bind fun p c st =>
      let keep (ds : List String) (st : σ) : Reading σ (List String) :=
        ⟨.ok ds, { c with cache := { c.cache with documents := some ds } }, st⟩
      if p.ids.isEmpty then keep [] st
      else
        match s.fetch c.model p.ids st with
        | (.ok ds, st) => keep ds st
        | (.error e, st) => c.fail s e.message st

def intoDocuments (s : Service σ) (c : Criteria) (st : σ) :
    Except CriteriaError (List String) × σ :=
  ((c.documents s st).result, (c.documents s st).state)

end Criteria
end SearchCriteria
