import SearchCriteria.Proofs.Cache.Run
import SearchCriteria.Proofs.Scope.Restoration

/-! Chains of scopes. The first scope is called on a model and begins with the default scope; every
later one is called on the criteria, finds it in scope and goes on from there. So the default scope
stands at the beginning of a chain, once, and where the later calls are made does not matter. -/
namespace SearchCriteria

/-- What is done with a criteria between two calls. -/
inductive QueryStep
  | chain (op : Operation)
  | read (kind : ReadKind)

namespace QueryStep

def action : QueryStep → Action
  | chain op => .chain op
  | read kind => .read kind

def operation? : QueryStep → Option Operation
  | chain op => some op
  | read _ => none

end QueryStep

/-- The call of a registered scope, with its arguments and context, and the steps that follow. -/
structure ScopeCall (r : Registry) where
  name : String
  definition : ScopeDefinition
  registered : r.scope? name = some definition
  args : List Value := []
  context : ScopeContext := {}
  steps : List QueryStep := []

def ScopeCall.operations {r : Registry} (call : ScopeCall r) (catalog : Catalog) :
    List Operation :=
  .merge (call.definition.builder.resolve catalog call.args) ::
    call.steps.filterMap QueryStep.operation?

namespace Run

variable {σ : Type}

def resume (s : Service σ) (r : Run σ) (steps : List QueryStep) : Option Outcome → Option (Run σ)
  | some ⟨.ok c, _, _⟩ => some (({ r with criteria := c }).steps s (steps.map QueryStep.action))
  | _ => none

def callScope {reg : Registry} (s : Service σ) (rs : Registries) (depth : Nat) (r : Run σ)
    (call : ScopeCall reg) : Option (Run σ) :=
  r.resume s call.steps (r.criteria.callTo rs depth call.name call.args call.context)

/-- Calls scopes one after the other; nothing is left of the run when one of them fails. -/
def callScopes {reg : Registry} (s : Service σ) (rs : Registries) (depth : Nat) :
    Run σ → List (ScopeCall reg) → Option (Run σ)
  | r, [] => some r
  | r, call :: rest => (r.callScope s rs depth call).bind fun r => r.callScopes s rs depth rest

end Run

def Model.callScopes {σ : Type} {reg : Registry} (s : Service σ) (rs : Registries) (depth : Nat)
    (m : Model) (st : σ) (first : ScopeCall reg) (rest : List (ScopeCall reg)) : Option (Run σ) :=
  ((Run.start m {} st).resume s first.steps
    (m.callTo rs depth first.name first.args first.context)).bind fun r =>
      r.callScopes s rs depth rest

/-- The query of a chain that begins in a context without frames. -/
def Model.baseQuery (m : Model) (rs : Registries) (ctx : ScopeContext) : SearchQuery :=
  if ctx.isSuppressed m.collection then {} else (m.defaultQuery rs).getD {}

namespace Model

variable {rs : Registries} {m : Model}

theorem withDefaultScope_of_frames_nil {ctx : ScopeContext} (h : ctx.frames m.collection = []) :
    m.withDefaultScope rs ctx = { m.empty with query := m.baseQuery rs ctx } := by
  have htop : ctx.top? m.records m.collection = none := by simp [ScopeContext.top?, h]
  simp only [withDefaultScope, htop, baseQuery]
  cases ctx.isSuppressed m.collection with
  | true => rfl
  | false => cases m.defaultQuery rs <;> rfl

theorem withDefaultScope_entered {ctx entry : ScopeContext} {c : Criteria}
    (h : ctx.Entered c entry) : c.model.withDefaultScope rs entry = c.fork := by
  simp only [withDefaultScope, h.top?]

theorem applyScope_eq {name : String} {d : ScopeDefinition}
    (h : (rs m.id).scope? name = some d) (ctx : ScopeContext) (args : List Value) :
    m.applyScope rs ctx name args =
      .ok (((m.withDefaultScope rs ctx).merge (d.builder.resolve rs.catalog args)).withExtension
        d.extension) := by
  simp only [applyScope, h]

end Model

/-- Called on a criteria that carries nothing of that name, a scope is merged onto the criteria,
in every context; the frame of the call is pushed and dropped. -/
theorem Criteria.callTo_scope {rs : Registries} {c : Criteria} {name : String}
    {d : ScopeDefinition} (hext : c.extensions.get? name = none)
    (h : (rs c.model.id).scope? name = some d) (depth : Nat) (args : List Value)
    (ctx : ScopeContext) :
    c.callTo rs depth name args ctx =
      some ⟨.ok ((c.merge (d.builder.resolve rs.catalog args)).withExtension d.extension),
        (ctx.push c).1.drop (ctx.push c).2, []⟩ := by
  have hname : (rs c.model.id).respondsTo name = true := by
    have hmem : (rs c.model.id).scopes.contains name = true :=
      Option.isSome_iff_exists.2 ⟨d, h⟩
    rw [Registry.respondsTo, hmem, Bool.true_or]
  rw [callTo, callWith_model hext hname, Model.callTo_scope h, Model.applyScope_eq h,
    Model.withDefaultScope_entered (ScopeContext.entered_push ctx c)]
  rfl

namespace Run

variable {σ : Type}

/-- What a chain of scopes has made of its criteria. -/
structure Carries (m : Model) (q : SearchQuery) (entries : List (String × ExtensionOp))
    (r : Run σ) : Prop where
  model : r.criteria.model = m
  query : r.criteria.query = q
  extensions : r.criteria.extensions = .ofList entries

namespace Carries

variable {m : Model} {q : SearchQuery} {entries : List (String × ExtensionOp)}

theorem step (s : Service σ) {r : Run σ} (h : r.Carries m q entries) (step : QueryStep) :
    (r.step s step.action).Carries m (q.applyAll step.operation?.toList) entries := by
  cases step with
  | chain op => exact ⟨h.model, congrArg (fun q => q.apply op) h.query, h.extensions⟩
  | read kind =>
    have hmoves := Criteria.moves_read s r.criteria r.state kind
    have hext := congrArg Criteria.extensions hmoves.fork_eq
    exact ⟨hmoves.model_eq.trans h.model, hmoves.query_eq.trans h.query, hext.trans h.extensions⟩

theorem steps (s : Service σ) {r : Run σ} (h : r.Carries m q entries) (steps : List QueryStep) :
    (r.steps s (steps.map QueryStep.action)).Carries m
      (q.applyAll (steps.filterMap QueryStep.operation?)) entries := by
  induction steps generalizing r q with
  | nil => exact h
  | cons first rest ih =>
    have hrest := ih (h.step s first)
    rw [List.map_cons, steps_cons]
    cases first with
    | chain op => exact hrest
    | read kind => exact hrest

theorem callScope (s : Service σ) {rs : Registries} {r : Run σ} (h : r.Carries m q entries)
    (call : ScopeCall (rs m.id)) (hfree : NameTable.last? call.name entries = none) (depth : Nat) :
    ∃ after, r.callScope s rs depth call = some after ∧
      after.Carries m (q.applyAll (call.operations rs.catalog))
        (entries ++ call.definition.extension) := by
  have hext : r.criteria.extensions.get? call.name = none := by
    rw [h.extensions, NameTable.get?_ofList, hfree]
  have hscope : (rs r.criteria.model.id).scope? call.name = some call.definition := by
    rw [h.model, call.registered]
  have hcall := Criteria.callTo_scope hext hscope depth call.args call.context
  let query := call.definition.builder.resolve rs.catalog call.args
  let called : Run σ :=
    { r with criteria := (r.criteria.merge query).withExtension call.definition.extension }
  have hcalled : called.Carries m (q.merge query) (entries ++ call.definition.extension) := by
    refine ⟨h.model, congrArg (fun q => q.merge query) h.query, ?_⟩
    rw [← NameTable.extend_ofList, ← h.extensions]
    rfl
  refine ⟨called.steps s (call.steps.map QueryStep.action), ?_, hcalled.steps s call.steps⟩
  rw [Run.callScope, hcall]
  rfl

/-- The run, when every name is free of what was carried before and of what earlier scopes add. -/
theorem callScopes (s : Service σ) {rs : Registries} {r : Run σ} (h : r.Carries m q entries)
    (calls : List (ScopeCall (rs m.id)))
    (hbefore : ∀ call ∈ calls, NameTable.last? call.name entries = none)
    (hfree : calls.Pairwise fun earlier later =>
      earlier.definition.extension.contains later.name = false) (depth : Nat) :
    ∃ last, r.callScopes s rs depth calls = some last ∧
      last.Carries m (q.applyAll (calls.flatMap fun call => call.operations rs.catalog))
        (entries ++ calls.flatMap fun call => call.definition.extension) := by
  induction calls generalizing r q entries with
  | nil => exact ⟨r, rfl, by simpa using h⟩
  | cons call rest ih =>
    obtain ⟨hlater, hrest⟩ := List.pairwise_cons.1 hfree
    obtain ⟨after, hafter, hcarries⟩ := h.callScope s call (hbefore call (by simp)) depth
    have hnext : ∀ later ∈ rest,
        NameTable.last? later.name (entries ++ call.definition.extension) = none := by
      intro later hmem
      rw [NameTable.last?_append, NameTable.last?_eq_none_of_contains (hlater later hmem),
        hbefore later (by simp [hmem])]
      rfl
    obtain ⟨last, hlast, hdone⟩ := ih hcarries hnext hrest
    refine ⟨last, ?_, ?_⟩
    · rw [Run.callScopes, hafter, Option.bind_some, hlast]
    · rw [List.flatMap_cons, SearchQuery.applyAll_append, List.flatMap_cons, ← List.append_assoc]
      exact hdone

end Carries

end Run

/-- A chain of scopes begins with the default scope, unless its first context leaves that out; then
the queries of the scopes and of the steps between them follow in order. -/
theorem Model.callScopes_eq {σ : Type} (s : Service σ) (rs : Registries) (depth : Nat) (m : Model)
    (st : σ) (first : ScopeCall (rs m.id)) (rest : List (ScopeCall (rs m.id)))
    (hframes : first.context.frames m.collection = [])
    (hfree : (first :: rest).Pairwise fun earlier later =>
      earlier.definition.extension.contains later.name = false) :
    ∃ r, m.callScopes s rs depth st first rest = some r ∧ r.criteria.model = m ∧
      r.criteria.query = SearchQuery.applyAll
        (if first.context.isSuppressed m.collection then {} else (m.defaultQuery rs).getD {})
        ((first :: rest).flatMap fun call => call.operations rs.catalog) ∧
      ∀ name, r.criteria.extensions.get? name =
        NameTable.last? name ((first :: rest).flatMap fun call => call.definition.extension) := by
  let query := first.definition.builder.resolve rs.catalog first.args
  let base : Criteria := { m.empty with query := m.baseQuery rs first.context }
  let called : Run σ := ⟨(base.merge query).withExtension first.definition.extension, st, []⟩
  have hcalled : called.Carries m ((m.baseQuery rs first.context).merge query)
      first.definition.extension :=
    ⟨rfl, rfl, NameTable.extend_ofList [] first.definition.extension⟩
  have hcall : m.callTo rs depth first.name first.args first.context =
      some ⟨.ok called.criteria, first.context, []⟩ := by
    rw [callTo_scope first.registered, applyScope_eq first.registered,
      withDefaultScope_of_frames_nil hframes]
  obtain ⟨hlater, hrest⟩ := List.pairwise_cons.1 hfree
  obtain ⟨last, hlast, hdone⟩ := (hcalled.steps s first.steps).callScopes s rest
    (fun call hmem => NameTable.last?_eq_none_of_contains (hlater call hmem)) hrest depth
  refine ⟨last, ?_, hdone.model, ?_, fun name => ?_⟩
  · rw [callScopes, hcall]
    exact hlast
  · rw [List.flatMap_cons, SearchQuery.applyAll_append]
    exact hdone.query
  · rw [hdone.extensions, NameTable.get?_ofList, List.flatMap_cons]

/-- Two scopes with a step and a read that fails between them; the second call is made where the
default scope is left out and another criteria is in scope. -/
theorem Model.callScopes_adults_named :
    let m : Model := { id := 0, collection := "people" }
    let adults : ScopeDefinition :=
      { builder := .fixed (({} : SearchQuery).filter (.raw "age:18")),
        extension := [("oldest",
          { run := fun _ _ c => { result := .ok (c.draft.apply (.sort (.raw "age desc"))) } })] }
    let named : ScopeDefinition :=
      { builder := .dynamic fun _ args =>
          ({} : SearchQuery).filter (.fields ⟨args.map fun v => ("name", v)⟩) }
    let registry : Registry :=
      { scopes := [("adults", adults), ("named", named)],
        defaults := [.fixed (({} : SearchQuery).filter (.raw "tenant:7"))] }
    let down : Service Unit :=
      { search := fun _ _ _ _ => (.error (.transport "down"), ()),
        fetch := fun _ _ _ => (.ok [], ()),
        failed := fun _ _ _ _ => () }
    let elsewhere := ((({} : ScopeContext).suppress "people").push (m.empty.apply (.limit 5))).2
    let first : ScopeCall registry :=
      { name := "adults", definition := adults, registered := rfl,
        steps := [.chain (.skip 3), .read .total] }
    let second : ScopeCall registry :=
      { name := "named", definition := named, registered := rfl, args := [.text "Joe"],
        context := elsewhere }
    first.context.frames "people" = [] ∧
    [first, second].Pairwise (fun earlier later =>
      earlier.definition.extension.contains later.name = false) ∧
    ∃ r, m.callScopes down (fun _ => registry) 0 () first [second] = some r ∧
      r.criteria.query = { selector := "((tenant:7)) AND ((age:18)) AND ((name:Joe))",
                           options := { start := some 3 } } ∧
      (r.criteria.extensions.get? "oldest").isSome = true := by
  intro m adults named registry down elsewhere first second
  have hframes : first.context.frames "people" = [] := rfl
  have hfree : [first, second].Pairwise (fun earlier later =>
      earlier.definition.extension.contains later.name = false) := by decide
  obtain ⟨r, hr, -, hquery, hext⟩ :=
    callScopes_eq down (fun _ => registry) 0 m () first [second] hframes hfree
  refine ⟨hframes, hfree, r, hr, ?_, ?_⟩
  · rw [hquery]
    decide +kernel
  · rw [hext]
    rfl

end SearchCriteria
