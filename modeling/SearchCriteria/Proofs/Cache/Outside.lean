import SearchCriteria.Proofs.Cache.Run

/-! One outside seen as another. Where the states of an outside can be shown as states of a second
one that answers alike, every read shows the same results; and what no single request makes false
of an outside is true after every read. -/
namespace SearchCriteria
namespace Service

variable {σ τ υ : Type}

/-- Shown by `f`, the states of `s` are states of `t`, and both answer alike. -/
structure Mirrors (s : Service σ) (t : Service τ) (f : σ → τ) : Prop where
  search : ∀ m selector options st, t.search m selector options (f st) =
    ((s.search m selector options st).1, f (s.search m selector options st).2)
  fetch : ∀ m ids st, t.fetch m ids (f st) = ((s.fetch m ids st).1, f (s.fetch m ids st).2)
  failed : ∀ m selector reason st,
    t.failed m selector reason (f st) = f (s.failed m selector reason st)

namespace Mirrors

variable {s : Service σ} {t : Service τ} {u : Service υ} {f : σ → τ} {g : τ → υ}

theorem trans (h : s.Mirrors t f) (h' : t.Mirrors u g) : s.Mirrors u (g ∘ f) where
  search m selector options st := by
    rw [Function.comp_apply, h'.search, h.search]
    rfl
  fetch m ids st := by
    rw [Function.comp_apply, h'.fetch, h.fetch]
    rfl
  failed m selector reason st := by
    rw [Function.comp_apply, h'.failed, h.failed]
    rfl

theorem search_eq (h : s.Mirrors t f) {m : Model} {selector : String} {options : QueryOptions}
    {st after : σ} {answer : Except BackendError Json}
    (hs : s.search m selector options st = (answer, after)) :
    t.search m selector options (f st) = (answer, f after) := by
  rw [h.search, hs]

theorem fetch_eq (h : s.Mirrors t f) {m : Model} {ids : List String} {st after : σ}
    {answer : Except BackendError (List String)} (hs : s.fetch m ids st = (answer, after)) :
    t.fetch m ids (f st) = (answer, f after) := by
  rw [h.fetch, hs]

end Mirrors

structure Keeps (s : Service σ) (P : σ → Prop) : Prop where
  search : ∀ m selector options {st}, P st → P (s.search m selector options st).2
  fetch : ∀ m ids {st}, P st → P (s.fetch m ids st).2
  failed : ∀ m selector reason {st}, P st → P (s.failed m selector reason st)

namespace Keeps

variable {s : Service σ} {P : σ → Prop} {m : Model} {st after : σ}

theorem of_search (h : s.Keeps P) {selector : String} {options : QueryOptions}
    {answer : Except BackendError Json} (hst : P st)
    (hs : s.search m selector options st = (answer, after)) : P after := by
  have hafter := h.search m selector options hst
  rwa [hs] at hafter

theorem of_fetch (h : s.Keeps P) {ids : List String} {answer : Except BackendError (List String)}
    (hst : P st) (hs : s.fetch m ids st = (answer, after)) : P after := by
  have hafter := h.fetch m ids hst
  rwa [hs] at hafter

theorem move (h : s.Keeps P) {x y : Criteria × σ} (hxy : Move s x y) (hx : P x.2) : P y.2 := by
  cases hxy with
  | search hb hs => exact h.of_search hx hs
  | refuse hb hs => exact h.failed _ _ _ (h.of_search hx hs)
  | understand hc hn hp => exact hx
  | reject hc hp => exact h.failed _ _ _ hx
  | skip hc hp => exact hx
  | fetch hc hp hs => exact h.of_fetch hx hs
  | lose hc hp hs => exact h.failed _ _ _ (h.of_fetch hx hs)

theorem read (h : s.Keeps P) (c : Criteria) (kind : ReadKind) (hst : P st) :
    P (c.read s st kind).state :=
  (Criteria.moves_read s c st kind).keep (P := fun x => P x.2) h.move hst

end Keeps

end Service

namespace Reading

variable {σ τ α β : Type}

def mapState (f : σ → τ) (r : Reading σ α) : Reading τ α := ⟨r.result, r.criteria, f r.state⟩

theorem mapState_map (f : σ → τ) (g : α → β) (r : Reading σ α) :
    (r.map g).mapState f = (r.mapState f).map g := rfl

theorem mapState_bind {f : σ → τ} {r : Reading σ α} {k : α → Criteria → σ → Reading σ β}
    {k' : α → Criteria → τ → Reading τ β}
    (hk : ∀ a c st, (k a c st).mapState f = k' a c (f st)) :
    (r.bind k).mapState f = (r.mapState f).bind k' := by
  cases h : r.result with
  | ok a =>
    have h' : (r.mapState f).result = .ok a := h
    rw [bind_ok h, bind_ok h', hk]
    rfl
  | error e =>
    have h' : (r.mapState f).result = .error e := h
    rw [bind_error h, bind_error h']
    rfl

end Reading

namespace Service.Mirrors

open Criteria Reading

variable {σ τ : Type} {s : Service σ} {t : Service τ} {f : σ → τ}

theorem fail (h : s.Mirrors t f) {α : Type} (c : Criteria) (reason : String) (st : σ) :
    (c.fail s reason st : Reading σ α).mapState f = c.fail t reason (f st) := by
  rw [Criteria.fail, Criteria.fail, h.failed]
  rfl

theorem execute (h : s.Mirrors t f) (c : Criteria) (st : σ) :
    (c.execute s st).mapState f = c.execute t (f st) := by
  cases hb : c.query.isBlank with
  | true => rw [execute_blank hb, execute_blank hb]; rfl
  | false =>
    rcases hs : s.search c.model c.selector c.effectiveOptions st with ⟨e | raw, after⟩
    · rw [execute_error hb hs, execute_error hb (h.search_eq hs), h.fail]
    · rw [execute_ok hb hs, execute_ok hb (h.search_eq hs)]; rfl

theorem ensureResponse (h : s.Mirrors t f) (c : Criteria) (st : σ) :
    (c.ensureResponse s st).mapState f = c.ensureResponse t (f st) := by
  cases hc : c.cache.response with
  | some raw => rw [ensureResponse_cached hc, ensureResponse_cached hc]; rfl
  | none => rw [ensureResponse_fresh hc, ensureResponse_fresh hc, h.execute]

theorem understand (h : s.Mirrors t f) (raw : Json) (c : Criteria) (st : σ) :
    (understand s raw c st).mapState f = Criteria.understand t raw c (f st) := by
  cases hp : ParsedResponse.parse raw with
  | ok p => rw [understand_ok hp, understand_ok hp]; rfl
  | error fault => rw [understand_error hp, understand_error hp, h.fail]

theorem parsed (h : s.Mirrors t f) (c : Criteria) (st : σ) :
    (c.parsed s st).mapState f = c.parsed t (f st) := by
  cases hc : c.cache.parsed with
  | some p => rw [parsed_cached hc, parsed_cached hc]; rfl
  | none =>
    rw [parsed_fresh hc, parsed_fresh hc, ← h.ensureResponse]
    exact mapState_bind h.understand

theorem gather (h : s.Mirrors t f) (p : ParsedResponse) (c : Criteria) (st : σ) :
    (gather s p c st).mapState f = Criteria.gather t p c (f st) := by
  by_cases hp : p.ids = []
  · rw [gather_nil hp, gather_nil hp]; rfl
  · rcases hs : s.fetch c.model p.ids st with ⟨e | ds, after⟩
    · rw [gather_error hp hs, gather_error hp (h.fetch_eq hs), h.fail]
    · rw [gather_ok hp hs, gather_ok hp (h.fetch_eq hs)]; rfl

theorem documents (h : s.Mirrors t f) (c : Criteria) (st : σ) :
    (c.documents s st).mapState f = c.documents t (f st) := by
  cases hc : c.cache.documents with
  | some ds => rw [documents_cached hc, documents_cached hc]; rfl
  | none =>
    rw [documents_fresh hc, documents_fresh hc, ← h.parsed]
    exact mapState_bind h.gather

theorem read (h : s.Mirrors t f) (c : Criteria) (st : σ) (kind : ReadKind) :
    (c.read s st kind).mapState f = c.read t (f st) kind := by
  cases kind <;>
    simp only [Criteria.read, total, documentIds, hits, mapState_map, h.parsed, h.documents,
      h.execute]

end Service.Mirrors
end SearchCriteria
