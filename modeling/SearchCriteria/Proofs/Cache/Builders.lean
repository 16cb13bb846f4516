import Mathlib.Data.List.Induction
import SearchCriteria.Criteria.Method
import SearchCriteria.Proofs.Cache.Requests

/-! A criteria against the query that it builds. Between the calls a criteria may be forked, given
operations and read, whatever the reads find. Its query is all the same the one that the calls
alone build, and the page size of its model is nowhere but in the searches. -/
namespace SearchCriteria

/-- What is done with a criteria: a call of the chain, or what may stand between the calls. -/
inductive Handling
  | call (m : Method)
  | fork
  | withExtension (e : Extension)
  | read (kind : ReadKind)

namespace Handling

def method? : Handling → Option Method
  | call m => some m
  | _ => none

def methods (hs : List Handling) : List Method := hs.filterMap method?

def action : Handling → Action
  | call m => .chain m.operation
  | fork => .fork
  | withExtension e => .withExtension e
  | read kind => .read kind

theorem methods_append (hs hs' : List Handling) :
    methods (hs ++ hs') = methods hs ++ methods hs' := List.filterMap_append

theorem methods_singleton (h : Handling) : methods [h] = h.method?.toList := by
  cases h <;> rfl

end Handling

namespace SearchQuery

def invokeAll (q : SearchQuery) (ms : List Method) : SearchQuery := ms.foldl invoke q

theorem invokeAll_append (q : SearchQuery) (ms ms' : List Method) :
    q.invokeAll (ms ++ ms') = (q.invokeAll ms).invokeAll ms' := List.foldl_append

theorem invokeAll_eq_applyAll (q : SearchQuery) (ms : List Method) :
    q.invokeAll ms = q.applyAll (ms.map Method.operation) := by
  induction ms generalizing q with
  | nil => rfl
  | cons m ms ih =>
    rw [List.map_cons, applyAll_cons, ← invoke_eq_apply, ← ih]
    rfl

end SearchQuery

namespace Criteria

def invokeAll (c : Criteria) (ms : List Method) : Criteria := ms.foldl invoke c

theorem query_invokeAll (c : Criteria) (ms : List Method) :
    (c.invokeAll ms).query = c.query.invokeAll ms := by
  induction ms generalizing c with
  | nil => rfl
  | cons m ms ih =>
    have hfirst : (c.invoke m).query = c.query.invoke m := by rw [invoke_eq_change, change]
    have hrest := ih (c.invoke m)
    rw [hfirst] at hrest
    exact hrest

end Criteria

namespace Run

variable {σ : Type}

def handle (s : Service σ) (r : Run σ) : Handling → Run σ
  | .call m => { r with criteria := r.criteria.invoke m }
  | .fork => r.step s .fork
  | .withExtension e => r.step s (.withExtension e)
  | .read kind => r.step s (.read kind)

def handleAll (s : Service σ) (r : Run σ) (hs : List Handling) : Run σ := hs.foldl (handle s) r

theorem handle_eq_step (s : Service σ) (r : Run σ) (h : Handling) :
    r.handle s h = r.step s h.action := by
  cases h with
  | call m => rw [handle, Handling.action, step, Criteria.invoke_eq_apply]
  | _ => rfl

theorem handleAll_eq_steps (s : Service σ) (r : Run σ) (hs : List Handling) :
    r.handleAll s hs = r.steps s (hs.map Handling.action) := by
  induction hs generalizing r with
  | nil => rfl
  | cons h hs ih =>
    rw [List.map_cons, steps_cons, ← handle_eq_step]
    exact ih (r.handle s h)

theorem handleAll_concat (s : Service σ) (r : Run σ) (hs : List Handling) (h : Handling) :
    r.handleAll s (hs ++ [h]) = (r.handleAll s hs).handle s h := by
  rw [handleAll, List.foldl_append]
  rfl

/-- A call does to the query of a criteria what it does to a query; nothing else changes it. -/
theorem query_handle (s : Service σ) (r : Run σ) (h : Handling) :
    (r.handle s h).criteria.query = r.criteria.query.invokeAll h.method?.toList := by
  cases h with
  | call m => exact Criteria.query_invokeAll r.criteria [m]
  | read kind => exact (Criteria.moves_read s r.criteria r.state kind).query_eq
  | fork => rfl
  | withExtension e => rfl

structure Built (m : Model) (q : SearchQuery) (hs : List Handling) (r : Run σ) : Prop where
  query : r.criteria.query = q.invokeAll (Handling.methods hs)
  model : r.criteria.model = m

theorem Built.handle {m : Model} {q : SearchQuery} {hs : List Handling} {r : Run σ}
    (hr : Built m q hs r) (s : Service σ) (h : Handling) :
    Built m q (hs ++ [h]) (r.handle s h) where
  query := by
    rw [query_handle, hr.query, Handling.methods_append, Handling.methods_singleton,
      SearchQuery.invokeAll_append]
  model := by rw [handle_eq_step, model_step, hr.model]

theorem Built.handleAll (s : Service σ) (m : Model) (q : SearchQuery) (st : σ)
    (hs : List Handling) : Built m q hs ((start m q st).handleAll s hs) := by
  induction hs using List.reverseRecOn with
  | nil => exact ⟨rfl, rfl⟩
  | append_singleton hs h ih =>
    rw [handleAll_concat]
    exact ih.handle s h

/-- The options that a model searches with: its page size stands in for one that is not set. -/
theorem Built.effectiveOptions {m : Model} {q : SearchQuery} {hs : List Handling} {r : Run σ}
    (hr : Built m q hs r) :
    r.criteria.effectiveOptions =
      let built := q.invokeAll (Handling.methods hs)
      { built.options with rows := built.options.rows.or m.defaultRows } := by
  rw [Criteria.effectiveOptions, Criteria.options, hr.query, hr.model]

/-- The search for a query that the run had built at some point, with the page size of the model
if the query has none. -/
def SearchOf (m : Model) (q : SearchQuery) (hs : List Handling) (call : SearchCall) : Prop :=
  ∃ before, before <+: hs ∧
    let built := q.invokeAll (Handling.methods before)
    call = ⟨m.collection, built.selector,
      { built.options with rows := built.options.rows.or m.defaultRows }⟩

theorem SearchOf.append {m : Model} {q : SearchQuery} {hs : List Handling} {call : SearchCall}
    (hcall : SearchOf m q hs call) (more : List Handling) : SearchOf m q (hs ++ more) call := by
  obtain ⟨before, hbefore, hsent⟩ := hcall
  exact ⟨before, hbefore.trans (List.prefix_append hs more), hsent⟩

theorem Built.searchOf {m : Model} {q : SearchQuery} {hs : List Handling} {r : Run σ}
    (hr : Built m q hs r) : SearchOf m q hs r.criteria.searchCall := by
  refine ⟨hs, List.prefix_rfl, ?_⟩
  rw [Criteria.searchCall, Criteria.selector, hr.effectiveOptions, hr.query, hr.model]

theorem everySearch_handleAll (s : Service σ) (m : Model) (q : SearchQuery) (st : σ)
    (hs : List Handling) :
    ((start m q (([], st) : History × σ)).handleAll s.recorded hs).state.1.EverySearch
      (SearchOf m q hs) := by
  induction hs using List.reverseRecOn with
  | nil => exact .nil
  | append_singleton hs h ih =>
    have hbuilt := Built.handleAll s.recorded m q (([], st) : History × σ) hs
    have hsofar := ih.mono fun call hcall => hcall.append [h]
    rw [handleAll_concat]
    cases h with
    | read kind => exact hsofar.read kind fun _ => hbuilt.searchOf.append [.read kind]
    | _ => exact hsofar

/-- A criteria has the query that the same calls build from its first one, whatever is read, forked
or carried in between. Only what is sent has the page size of the model. -/
theorem query_eq_invokeAll (s : Service σ) (m : Model) (q : SearchQuery) (st : σ)
    (hs : List Handling) :
    let built := q.invokeAll (Handling.methods hs)
    let r := (start m q st).handleAll s hs
    let asked := (start m q (([], st) : History × σ)).handleAll s.recorded hs
    (∀ ms : List Method,
      (({ model := m, query := q } : Criteria).invokeAll ms).query = q.invokeAll ms ∧
      q.invokeAll ms = q.applyAll (ms.map Method.operation)) ∧
    r = (start m q st).steps s (hs.map Handling.action) ∧
    r.criteria.query = built ∧ r.criteria.model = m ∧
    (∀ other : Criteria, (other.merge r.criteria.query).query = other.query.merge built) ∧
    (∀ catalog args, (ScopeBuilder.fixed r.criteria.query).resolve catalog args = built) ∧
    r.criteria.effectiveOptions =
      { built.options with rows := built.options.rows.or m.defaultRows } ∧
    asked.state.1.EverySearch (SearchOf m q hs) := by
  intro built r asked
  have hbuilt : Built m q hs r := Built.handleAll s m q st hs
  refine ⟨fun ms => ⟨?_, q.invokeAll_eq_applyAll ms⟩, handleAll_eq_steps s _ hs, hbuilt.query,
    hbuilt.model, fun other => ?_, fun catalog args => ?_, hbuilt.effectiveOptions,
    everySearch_handleAll s m q st hs⟩
  · exact Criteria.query_invokeAll _ ms
  · rw [Criteria.merge, Criteria.apply_query, hbuilt.query]
    rfl
  · rw [ScopeBuilder.resolve_fixed, hbuilt.query]

end Run
end SearchCriteria
