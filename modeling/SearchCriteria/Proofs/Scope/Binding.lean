import Mathlib.Data.Set.Insert
import SearchCriteria.Proofs.Cache.Run
import SearchCriteria.Proofs.Scope.Restoration
import SearchCriteria.World

/-! To whom a criteria is bound. Frames are kept by collection, and a model goes on from the frame
on top of its collection. So what a model hands out is its own, unless another model of the same
collection and the same kind of records has put a criteria there. -/
namespace SearchCriteria

namespace World

variable {m : Model} {w : World} {n : Nat}

theorem search_fst (m : Model) (selector : String) (options : QueryOptions) (w : World) :
    (w.search m selector options).1 =
      ((w.state m).backend.search ⟨m.collection, selector, options⟩).1 := rfl

theorem fetch_fst (m : Model) (ids : List String) (w : World) :
    (w.fetch m ids).1 = ((w.state m).store.fetch ids).1 := by
  have hstate : (w.log (.fetching m.collection ids.length)).state m = w.state m := rfl
  rw [fetch, hstate]
  rcases (w.state m).store.fetch ids with ⟨e | records, store⟩ <;> rfl

theorem models_update (h : n ≠ m.id) (f : ModelState → ModelState) :
    (w.update m f).models[n]? = w.models[n]? := by
  simp [update, Ne.symm h]

theorem models_search {selector : String} {options : QueryOptions} {after : World}
    {answer : Except BackendError Json} (h : n ≠ m.id)
    (hsearch : service.search m selector options w = (answer, after)) :
    after.models[n]? = w.models[n]? := by
  obtain ⟨-, rfl⟩ := Prod.mk.inj hsearch
  exact models_update h _

theorem models_fetch {ids : List String} {after : World}
    {answer : Except BackendError (List String)} (h : n ≠ m.id)
    (hfetch : service.fetch m ids w = (answer, after)) : after.models[n]? = w.models[n]? := by
  have hstate : (w.log (.fetching m.collection ids.length)).state m = w.state m := rfl
  have hdef : service.fetch m ids w = w.fetch m ids := rfl
  rw [hdef, fetch, hstate] at hfetch
  rcases hstore : (w.state m).store.fetch ids with ⟨e | records, store⟩
  · rw [hstore] at hfetch
    obtain ⟨-, rfl⟩ := Prod.mk.inj hfetch
    exact models_update h _
  · rw [hstore] at hfetch
    obtain ⟨-, rfl⟩ := Prod.mk.inj hfetch
    exact models_update h _

end World

namespace Criteria

/-- The criteria searches the backend of the model, has its records from the store of the model
and is called by the registry of the model. -/
structure BoundTo (c : Criteria) (m : Model) : Prop where
  model : c.model = m
  search : ∀ w : World, c.query.isBlank = false →
    (c.execute World.service w).result =
      ((w.state m).backend.search ⟨m.collection, c.selector, c.effectiveOptions⟩).1.mapError
        fun e => .queryFailed e.message
  fetch : ∀ (w : World) (p : ParsedResponse), c.cache.documents = none →
    (c.parsed World.service w).result = .ok p → p.ids ≠ [] →
    (c.documents World.service w).result =
      (((c.parsed World.service w).state.state m).store.fetch p.ids).1.mapError
        fun e => .queryFailed e.message
  others : ∀ (w : World) (kind : ReadKind) (n : Nat), n ≠ m.id →
    (c.read World.service w kind).state.models[n]? = w.models[n]?
  operations : ∀ (rs : Registries) (name : String),
    c.hasOperation rs name = (c.extensions.contains name || (rs m.id).respondsTo name)
  calls : ∀ (rs : Registries) (depth : Nat) (name : String) (args : List Value)
    (ctx : ScopeContext), c.extensions.get? name = none → (rs m.id).respondsTo name = true →
    c.callTo rs depth name args ctx =
      (m.callTo rs depth name args (ctx.push c).2).map fun o =>
        { o with context := (ctx.push c).1.drop o.context }

variable (c : Criteria)

theorem search_boundTo (w : World) (hb : c.query.isBlank = false) :
    (c.execute World.service w).result =
      ((w.state c.model).backend.search
        ⟨c.model.collection, c.selector, c.effectiveOptions⟩).1.mapError
        fun e => .queryFailed e.message := by
  have hanswer := World.search_fst c.model c.selector c.effectiveOptions w
  rcases h : w.search c.model c.selector c.effectiveOptions with ⟨e | raw, after⟩
  · rw [h] at hanswer
    rw [execute_error (s := World.service) hb h, ← hanswer]
    rfl
  · rw [h] at hanswer
    rw [execute_ok (s := World.service) hb h, ← hanswer]
    rfl

theorem fetch_boundTo (w : World) {p : ParsedResponse} (hd : c.cache.documents = none)
    (hp : (c.parsed World.service w).result = .ok p) (hids : p.ids ≠ []) :
    (c.documents World.service w).result =
      (((c.parsed World.service w).state.state c.model).store.fetch p.ids).1.mapError
        fun e => .queryFailed e.message := by
  have hmodel := (moves_parsed World.service c w).model_eq
  rw [documents_fresh hd, Reading.bind_ok hp, ← hmodel]
  generalize c.parsed World.service w = r at hp ⊢
  have hanswer := World.fetch_fst r.criteria.model p.ids r.state
  rcases h : r.state.fetch r.criteria.model p.ids with ⟨e | records, after⟩
  · rw [h] at hanswer
    rw [gather_error (s := World.service) hids h, ← hanswer]
    rfl
  · rw [h] at hanswer
    rw [gather_ok (s := World.service) hids h, ← hanswer]
    rfl

theorem models_move {x y : Criteria × World} (hxy : Move World.service x y) {n : Nat}
    (h : n ≠ x.1.model.id) : y.2.models[n]? = x.2.models[n]? := by
  cases hxy with
  | search hb hs => exact World.models_search h hs
  | refuse hb hs =>
    have hkept := World.models_search h hs
    exact hkept
  | understand => rfl
  | reject => rfl
  | skip => rfl
  | fetch hc hp hs => exact World.models_fetch h hs
  | lose hc hp hs =>
    have hkept := World.models_fetch h hs
    exact hkept

theorem models_read (w : World) (kind : ReadKind) {n : Nat} (h : n ≠ c.model.id) :
    (c.read World.service w kind).state.models[n]? = w.models[n]? := by
  have hread := moves_read World.service c w kind
  refine (hread.keep (P := fun x => x.1.model = c.model ∧ x.2.models[n]? = w.models[n]?)
    (fun hxy hx => ⟨?_, ?_⟩) ⟨rfl, rfl⟩).2
  · rw [← hx.1]
    cases hxy <;> rfl
  · rw [← hx.2]
    exact models_move hxy (hx.1 ▸ h)

theorem boundTo_model : c.BoundTo c.model where
  model := rfl
  search := c.search_boundTo
  fetch w _ := c.fetch_boundTo w
  others w kind _ := c.models_read w kind
  operations _ _ := rfl
  calls _ _ _ args ctx hext hname := callWith_model hext hname args ctx

end Criteria

namespace ScopeContext

/-- The contexts that chains of calls come to, with criteria of the models `ms` and any operations
of theirs. -/
inductive Reachable (rs : Registries) (ms : Set Model) : ScopeContext → Prop
  | new : Reachable rs ms {}
  | push {ctx : ScopeContext} {c : Criteria} (h : Reachable rs ms ctx) (hc : c.model ∈ ms) :
      Reachable rs ms (ctx.push c).2
  | pop {ctx after : ScopeContext} {records : RecordKind} {collection : String} {c : Criteria}
      (h : Reachable rs ms ctx) (hpop : ctx.pop? records collection = some (c, after)) :
      Reachable rs ms after
  | drop {ctx : ScopeContext} (h : Reachable rs ms ctx) (guard : ScopeGuard) :
      Reachable rs ms (guard.drop ctx)
  | suppress {ctx : ScopeContext} (h : Reachable rs ms ctx) (collection : String) :
      Reachable rs ms (ctx.suppress collection)
  | ended {ctx : ScopeContext} {depth : Nat} {o : Outcome} (h : Reachable rs ms ctx)
      (hended : Ended rs depth ctx o) : Reachable rs ms o.context

/-- Every frame belongs to one of the models and lies on the stack of its own collection. -/
def Filed (ms : Set Model) (ctx : ScopeContext) : Prop :=
  ∀ collection, ∀ c ∈ ctx.frames collection, c.model ∈ ms ∧ c.model.collection = collection

variable {rs : Registries} {ms : Set Model} {ctx : ScopeContext}

theorem Filed.push (h : ctx.Filed ms) {c : Criteria} (hc : c.model ∈ ms) :
    (ctx.push c).2.Filed ms := by
  intro collection d hd
  rw [ScopeContext.push, frames_setFrames] at hd
  split at hd
  · rename_i hcollection
    rcases List.mem_append.1 hd with hd | hd
    · rw [hcollection]
      exact h c.model.collection d hd
    · obtain rfl := List.mem_singleton.1 hd
      exact ⟨hc, hcollection.symm⟩
  · exact h collection d hd

theorem Filed.pop (h : ctx.Filed ms) {after : ScopeContext} {records : RecordKind}
    {collection : String} {c : Criteria} (hpop : ctx.pop? records collection = some (c, after)) :
    after.Filed ms := by
  obtain ⟨top, -, heq⟩ := Option.map_eq_some_iff.1 hpop
  obtain ⟨-, rfl⟩ := Prod.mk.inj heq
  intro other d hd
  rw [frames_setFrames] at hd
  split at hd
  · rename_i hother
    rw [hother]
    exact h collection d (List.dropLast_subset _ hd)
  · exact h other d hd

theorem Filed.drop (h : ctx.Filed ms) (guard : ScopeGuard) : (guard.drop ctx).Filed ms := by
  intro collection d hd
  rw [ScopeGuard.frames_drop] at hd
  split at hd
  · exact h collection d (List.mem_of_mem_take hd)
  · exact h collection d hd

theorem Reachable.filed (h : Reachable rs ms ctx) : ctx.Filed ms := by
  induction h with
  | new => exact fun collection c hc => nomatch hc
  | push h hc ih => exact ih.push hc
  | pop h hpop ih => exact ih.pop hpop
  | drop h guard ih => exact ih.drop guard
  | suppress h collection ih => exact ih
  | ended h hended ih =>
    intro collection c hc
    rw [hended.restored.frames] at hc
    exact ih collection c hc

theorem Filed.top? (h : ctx.Filed ms) {records : RecordKind} {collection : String} {c : Criteria}
    (htop : ctx.top? records collection = some c) :
    c.model ∈ ms ∧ c.model.collection = collection ∧ c.model.records = records := by
  obtain ⟨hlast, hrecords⟩ := Option.filter_eq_some_iff.1 htop
  obtain ⟨hmem, hcollection⟩ := h collection c (List.mem_of_getLast? hlast)
  exact ⟨hmem, hcollection, of_decide_eq_true hrecords⟩

end ScopeContext

namespace Model

/-- The criteria that a model hands out to a chain of calls. -/
inductive HandsOut (m : Model) (rs : Registries) (ctx : ScopeContext) : Criteria → Prop
  | inScope : HandsOut m rs ctx (m.withDefaultScope rs ctx)
  | withoutDefault : HandsOut m rs ctx (m.withoutDefaultScope ctx).1
  | scope {name : String} {args : List Value} {c : Criteria}
      (h : m.applyScope rs ctx name args = .ok c) : HandsOut m rs ctx c

/-- The model whose criteria another one of its collection goes on from. -/
def inScope (m : Model) (ctx : ScopeContext) : Model :=
  ((ctx.top? m.records m.collection).map Criteria.model).getD m

variable {rs : Registries} {m : Model} {ctx : ScopeContext}

theorem model_withDefaultScope (m : Model) (rs : Registries) (ctx : ScopeContext) :
    (m.withDefaultScope rs ctx).model = m.inScope ctx := by
  rw [withDefaultScope, inScope]
  cases ctx.top? m.records m.collection with
  | some top => rfl
  | none =>
    cases ctx.isSuppressed m.collection with
    | true => rfl
    | false => cases m.defaultQuery rs <;> rfl

theorem HandsOut.model {c : Criteria} (h : m.HandsOut rs ctx c) : c.model = m.inScope ctx := by
  cases h with
  | inScope => exact model_withDefaultScope m rs ctx
  | withoutDefault =>
    rw [withoutDefaultScope, Model.inScope]
    cases ctx.top? m.records m.collection <;> rfl
  | @scope name args c h =>
    rw [applyScope] at h
    cases hscope : (rs m.id).scope? name with
    | none =>
      rw [hscope] at h
      cases h
    | some d =>
      rw [hscope] at h
      obtain rfl := Except.ok.inj h
      exact model_withDefaultScope m rs ctx

/-- What a model hands out is bound to the model of the criteria on top of its stack, which may be
another one of its collection; without such a criteria, to the model itself. -/
theorem handsOut_bound {ms : Set Model} (hctx : ScopeContext.Reachable rs ms ctx) {c : Criteria}
    (h : m.HandsOut rs ctx c) :
    (∀ top, ctx.top? m.records m.collection = some top →
      c.BoundTo top.model ∧ top.model ∈ ms ∧ top.model.collection = m.collection ∧
        top.model.records = m.records) ∧
    (ctx.top? m.records m.collection = none → c.BoundTo m) ∧
    ((∀ other ∈ ms, other.collection = m.collection → other.records = m.records → other = m) →
      c.BoundTo m) := by
  have hbound : c.BoundTo (m.inScope ctx) := by
    rw [← h.model]
    exact c.boundTo_model
  have htop : ∀ top, ctx.top? m.records m.collection = some top →
      c.BoundTo top.model ∧ top.model ∈ ms ∧ top.model.collection = m.collection ∧
        top.model.records = m.records := by
    intro top htop
    rw [inScope, htop] at hbound
    exact ⟨hbound, hctx.filed.top? htop⟩
  have hnone : ctx.top? m.records m.collection = none → c.BoundTo m := by
    intro htop
    rwa [inScope, htop] at hbound
  refine ⟨htop, hnone, fun honly => ?_⟩
  cases hcase : ctx.top? m.records m.collection with
  | none => exact hnone hcase
  | some top =>
    obtain ⟨hbound, hmem, hcollection, hrecords⟩ := htop top hcase
    rwa [honly top.model hmem hcollection hrecords] at hbound

/-- Of two models of one collection the second hands out a criteria that finds what the backend of
the first answers; its own backend is not asked. -/
theorem namesake_hands_out_foreign :
    let first : Model := { id := 0, collection := "people" }
    let second : Model := { id := 1, collection := "people" }
    let w : World :=
      { models := [{ model := first, backend := { fallback := responseWithIds ["a1"] } },
          { model := second, backend := { fallback := responseWithIds ["b1"] } }] }
    let ctx := (({} : ScopeContext).push first.empty).2
    let handed := second.withDefaultScope w.registries ctx
    let found := (handed.apply (.filter (.raw "y:1"))).documentIds World.service w
    ScopeContext.Reachable w.registries {first, second} ctx ∧
    second.HandsOut w.registries ctx handed ∧ ¬ handed.BoundTo second ∧
    found.result.toOption = some ["a1"] ∧ (found.state.state second).backend.calls = [] := by
  intro first second w ctx handed found
  have hmodel : handed.model = first := rfl
  refine ⟨.push .new (Set.mem_insert first _), .inScope, fun hbound => ?_, ?_, ?_⟩
  · rw [hbound.model] at hmodel
    exact absurd hmodel (by decide)
  · decide +kernel
  · decide +kernel

/-- A model whose collection no other model has, when another model is in scope and its own criteria
was put there and taken away. -/
theorem handsOut_bound_people :
    let people : Model := { id := 0, collection := "people" }
    let pets : Model := { id := 1, collection := "pets" }
    let rs : Registries := fun _ => { defaults := [.fixed { selector := "tenant:7" }] }
    let entered := ((({} : ScopeContext).push pets.empty).2.push people.empty)
    let ctx := entered.1.drop entered.2
    ScopeContext.Reachable rs {people, pets} ctx ∧
    people.HandsOut rs ctx (people.withDefaultScope rs ctx) ∧
    (people.withDefaultScope rs ctx).selector = "(tenant:7)" ∧
    (people.withDefaultScope rs ctx).BoundTo people := by
  intro people pets rs entered ctx
  have hpeople : people.empty.model ∈ ({people, pets} : Set Model) := Set.mem_insert people _
  have hpets : pets.empty.model ∈ ({people, pets} : Set Model) := Set.mem_insert_of_mem people rfl
  have hctx : ScopeContext.Reachable rs {people, pets} ctx :=
    .drop (.push (.push .new hpets) hpeople) entered.1
  obtain ⟨-, -, honly⟩ := handsOut_bound hctx (.inScope (m := people))
  refine ⟨hctx, .inScope, by decide +kernel, honly ?_⟩
  rintro other (rfl | rfl) hcollection -
  · rfl
  · exact absurd hcollection (by decide)

end Model
end SearchCriteria
