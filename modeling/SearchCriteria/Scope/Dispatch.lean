import SearchCriteria.Scope.Registry

/-! Starting criteria and calling operations by name.
A call on a criteria goes to the operations it carries, else to its model with the criteria
in scope; a call on a model goes to its scopes, else to its finders. Finders call further
operations, so a call is followed to a given depth of nested finders. -/
namespace SearchCriteria
namespace Model

def defaultQuery (m : Model) (rs : Registries) : Option SearchQuery :=
  (rs m.id).defaultQuery rs.catalog

def empty (m : Model) : Criteria := { model := m }

/-- What is in scope, else the default scope unless the context leaves it out. -/
def withDefaultScope (m : Model) (rs : Registries) (ctx : ScopeContext) : Criteria :=
  match ctx.top? m.records m.collection with
  | some top => top.fork
  | none =>
    if ctx.isSuppressed m.collection then m.empty
    else
      match m.defaultQuery rs with
      | some query => { m.empty with query }
      | none => m.empty

/-- What is in scope, else nothing; the context leaves the default scope out from now on. -/
def withoutDefaultScope (m : Model) (ctx : ScopeContext) : Criteria × ScopeContext :=
  (match ctx.top? m.records m.collection with
    | some top => top.fork
    | none => m.empty,
   ctx.suppress m.collection)

def start (m : Model) (rs : Registries) (ctx : ScopeContext) : Start → Criteria × ScopeContext
  | .inScope => (m.withDefaultScope rs ctx, ctx)
  | .fresh => (m.withDefaultScope rs {}, ctx)
  | .empty => (m.empty, ctx)
  | .withoutDefault => m.withoutDefaultScope ctx

def applyScope (m : Model) (rs : Registries) (ctx : ScopeContext) (name : String)
    (args : List Value) : Except CriteriaError Criteria :=
  match (rs m.id).scope? name with
  | none => .error (.unknownOperation name)
  | some d =>
    .ok (((m.withDefaultScope rs ctx).merge (d.builder.resolve rs.catalog args)).withExtension
      d.extension)

end Model

/-- A call of an operation of a model; none when it nests too deep. -/
abbrev ModelCall := Model → String → List Value → ScopeContext → Option Outcome

/-- Calls an operation on a criteria, where `call` calls operations of models. -/
def Criteria.callWith (rs : Registries) (call : ModelCall) (c : Criteria) (name : String)
    (args : List Value) (ctx : ScopeContext) : Option Outcome :=
  match c.extensions.get? name with
  | some op =>
    let reply := op.run rs.catalog args c.view
    some ⟨reply.result.map c.complete, ctx, reply.notes⟩
  | none =>
    if (rs c.model.id).respondsTo name then
      let (guard, ctx) := ctx.push c
      (call c.model name args ctx).map fun o => { o with context := guard.drop o.context }
    else some ⟨.error (.unknownOperation name), ctx, []⟩

def Program.run (rs : Registries) (call : ModelCall) : Program → ScopeContext → Option Outcome
  | .finish result, ctx => some ⟨result, ctx, []⟩
  | .note text next, ctx => (next.run rs call ctx).map (Outcome.after [text])
  | .look next, ctx => (next ctx rs.catalog).run rs call ctx
  | .start model base next, ctx =>
    let (c, ctx) := model.start rs ctx base
    (next c).run rs call ctx
  | .callModel model name args next, ctx =>
    match call model name args ctx with
    | none => none
    | some o => ((next o.result).run rs call o.context).map (Outcome.after o.notes)
  | .callCriteria c name args next, ctx =>
    match c.callWith rs call name args ctx with
    | none => none
    | some o => ((next o.result).run rs call o.context).map (Outcome.after o.notes)
  | .withScope c block next, ctx =>
    let (guard, ctx) := ctx.push c
    match block.run rs call ctx with
    | none => none
    | some o => ((next o.result).run rs call (guard.drop o.context)).map (Outcome.after o.notes)

/-- Calls an operation of a model, with at most `depth` finders inside each other. -/
def Model.callTo (rs : Registries) : Nat → ModelCall
  | depth, m, name, args, ctx =>
    match (rs m.id).scope? name with
    | some _ => some ⟨m.applyScope rs ctx name args, ctx, []⟩
    | none =>
      match (rs m.id).finder? name with
      | none => some ⟨.error (.unknownOperation name), ctx, []⟩
      | some f =>
        match depth with
        | 0 => none
        | depth + 1 => (f m args).run rs (callTo rs depth) ctx

def Criteria.callTo (rs : Registries) (depth : Nat) (c : Criteria) (name : String)
    (args : List Value) (ctx : ScopeContext) : Option Outcome :=
  c.callWith rs (Model.callTo rs depth) name args ctx

def Criteria.hasOperation (rs : Registries) (c : Criteria) (name : String) : Bool :=
  c.extensions.contains name || (rs c.model.id).respondsTo name

end SearchCriteria
