import SearchCriteria.Session.Command

/-! Sessions: the models, contexts and criteria that commands work on.
A command that uses a criteria up takes it away and puts what became of it back under the
same name, unless it failed. -/
namespace SearchCriteria

structure Session where
  world : World := {}
  models : NameTable Model := []
  contexts : NameTable ScopeContext := []
  criteria : NameTable Criteria := []
  nestingLimit : Nat := 1000
  deriving Inhabited

namespace Session

def directory (s : Session) : Directory := fun name => (s.models.get? name).map Model.id

def facts (s : Session) : String → ModelFacts := s.directory.facts s.world.catalog

def registries (s : Session) : Registries := s.world.registries

def registry (s : Session) (m : Model) : Registry := (s.world.state m).registry

def evalArgs (s : Session) (args : List Operand) : List Value :=
  args.map fun a => a.eval s.facts []

def evalStep (s : Session) (step : StepRecipe) : Operation := step.eval s.facts []

def context (s : Session) (name : String) : ScopeContext := (s.contexts.get? name).getD {}

def setContext (s : Session) (name : String) (ctx : ScopeContext) : Session :=
  { s with contexts := s.contexts.set name ctx }

def setWorld (s : Session) (w : World) : Session := { s with world := w }

def keep (s : Session) (name : String) (c : Criteria) : Answer × Session :=
  (.criteria c, { s with criteria := s.criteria.set name c })

def lose (s : Session) (name : String) : Session :=
  { s with criteria := s.criteria.remove name }

def withModel (s : Session) (name : String) (f : Model → Answer × Session) : Answer × Session :=
  match s.models.get? name with
  | some m => f m
  | none => (.noModel name, s)

/-- Looks at a criteria without using it up. -/
def withCriteria (s : Session) (name : String) (f : Criteria → Answer × Session) :
    Answer × Session :=
  match s.criteria.get? name with
  | some c => f c
  | none => (.noCriteria name, s)

/-- Takes a criteria away, before `f` does something with it. -/
def takeCriteria (s : Session) (name : String) (f : Criteria → Session → Answer × Session) :
    Answer × Session :=
  match s.criteria.get? name with
  | some c => f c (s.lose name)
  | none => (.noCriteria name, s)

def keepResult (s : Session) (name : String) : Except CriteriaError Criteria → Answer × Session
  | .ok c => s.keep name c
  | .error e => (.failed e, s)

def keepOutcome (s : Session) (context target : String) : Option Outcome → Answer × Session
  | none => (.unending, s)
  | some o =>
    ((s.setContext context o.context).setWorld (s.world.logNotes o.notes)).keepResult target
      o.result

def readAs (kind : ReadKind) (c : Criteria) (w : World) : Reading World Finding :=
  match kind with
  | .total => (c.total World.service w).map .total
  | .ids => (c.documentIds World.service w).map .ids
  | .hits => (c.hits World.service w).map .hits
  | .documents => (c.documents World.service w).map .records
  | .execute => (c.execute World.service w).map .raw

def read (s : Session) (kind : ReadKind) (on : String) : Answer × Session :=
  s.withCriteria on fun c =>
    let r := readAs kind c s.world
    (match r.result with
      | .ok f => .found f r.criteria
      | .error e => .notFound e r.criteria,
     { s with world := r.state, criteria := s.criteria.set on r.criteria })

def intoDocuments (s : Session) (on : String) : Answer × Session :=
  s.takeCriteria on fun c s =>
    let (result, world) := c.intoDocuments World.service s.world
    (match result with
      | .ok records => .taken (.records records)
      | .error e => .failed e,
     s.setWorld world)

/-- A builder as it is now. -/
def withBuilder (s : Session) (r : BuilderRecipe)
    (f : ScopeBuilder → Session → Answer × Session) : Answer × Session :=
  match r with
  | .fixed steps => f (.fixed (StepRecipe.build s.facts [] steps)) s
  | .dynamic steps =>
    let d := s.directory
    f (.dynamic fun catalog args => StepRecipe.build (d.facts catalog) args steps) s
  | .criteria name => s.withCriteria name fun c => f (.fixed c.query) s
  | .ownedCriteria name => s.takeCriteria name fun c s => f (.fixed c.query) s

def defaultQueryAnswer (s : Session) (m : Model) : Answer :=
  match m.defaultQuery s.registries with
  | some q => .query q
  | none => .nothing

def orNothing : Option Criteria → Answer
  | some c => .criteria c
  | none => .nothing

def addModel (s : Session) (name collection : String) (ids : List String)
    (records : List (String × String)) (config : Option SearchConfig) : Answer × Session :=
  let config := config.getD {}
  let (m, world) := s.world.addModel (config.collectionName collection) config.defaultRows
    { fallback := responseWithIds ids } (.ofList records)
  (.model m, { s with world, models := s.models.set name m })

/-- All commands but blocks. -/
def performSimple (s : Session) : Command → Answer × Session
  | .addModel name collection ids records config => s.addModel name collection ids records config
  | .make base model context target => s.withModel model fun m =>
    let (c, ctx) := m.start s.registries (s.context context) base
    (s.setContext context ctx).keep target c
  | .fromQuery model steps target => s.withModel model fun m =>
    s.keep target { m.empty with query := StepRecipe.build s.facts [] steps }
  | .startWith model step target => s.withModel model fun m =>
    s.keep target ((m.withDefaultScope s.registries {}).apply (s.evalStep step))
  | .applyScope model context name args target => s.withModel model fun m =>
    s.keepResult target (m.applyScope s.registries (s.context context) name (s.evalArgs args))
  | .callModel model context name args target => s.withModel model fun m =>
    s.keepOutcome context target
      (m.callTo s.registries s.nestingLimit name (s.evalArgs args) (s.context context))
  | .fork on target => s.withCriteria on fun c => s.keep target c.fork
  | .chain on step => s.takeCriteria on fun c s => s.keep on (c.apply (s.evalStep step))
  | .call on context name args => s.takeCriteria on fun c s =>
    s.keepOutcome context on
      (c.callTo s.registries s.nestingLimit name (s.evalArgs args) (s.context context))
  | .mergeCriteria on other => s.takeCriteria on fun c s =>
    s.withCriteria other fun o => s.keep on (c.merge o.query)
  | .withExtension on extension => s.takeCriteria on fun c s =>
    s.keep on (c.withExtension (.ofRecipes s.directory extension))
  | .read kind on => s.read kind on
  | .intoDocuments on => s.intoDocuments on
  | .state on => s.withCriteria on fun c => (.criteria c, s)
  | .response on => s.withCriteria on fun c => (.json (c.response.getD .null), s)
  | .hasOperation on name => s.withCriteria on fun c =>
    (.flag (c.hasOperation s.registries name), s)
  | .modelOf on => s.withCriteria on fun c => (.text c.model.collection, s)
  | .describe on => s.withCriteria on fun c => (.text c.describe, s)
  | .defineScope model name builder extension => s.withModel model fun m =>
    s.withBuilder builder fun b s =>
      let d := { builder := b, extension := .ofRecipes s.directory extension }
      let s := s.setWorld (s.world.defineScope m name d)
      (.names (s.registry m).scopeNames, s)
  | .defaultScope model builder => s.withModel model fun m =>
    s.withBuilder builder fun b s =>
      let s := s.setWorld (s.world.defaultScope m b)
      (s.defaultQueryAnswer m, s)
  | .defineFinder model name body => s.withModel model fun m =>
    let s := s.setWorld (s.world.defineFinder m name (body.finder s.directory))
    (.names (s.registry m).scopeNames, s)
  | .respondsTo model name => s.withModel model fun m => (.flag ((s.registry m).respondsTo name), s)
  | .hasDefaultScope model => s.withModel model fun m => (.flag (s.registry m).hasDefaultScope, s)
  | .scopeNames model => s.withModel model fun m => (.names (s.registry m).scopeNames, s)
  | .defaultQuery model => s.withModel model fun m => (s.defaultQueryAnswer m, s)
  | .describeModel model => s.withModel model fun m => (.text (m.describe (s.registry m)), s)
  | .search model selector options => s.withModel model fun m =>
    let (answer, world) := s.world.search m selector options
    (match answer with
      | .ok j => .taken (.raw j)
      | .error e => .backendFailed e,
     s.setWorld world)
  | .findByIds model ids => s.withModel model fun m =>
    let (answer, world) := s.world.fetch m ids
    (match answer with
      | .ok records => .taken (.records records)
      | .error e => .backendFailed e,
     s.setWorld world)
  | .index model record => s.withModel model fun m =>
    let (answer, world) := s.world.index m record
    (match answer with
      | .ok () => .indexer m.collection m.describeIndexer
      | .error e => .backendFailed e,
     s.setWorld world)
  | .queueAnswer model answer => s.withModel model fun m =>
    (.nothing, s.setWorld (s.world.update m fun x => { x with backend := x.backend.queue answer }))
  | .setFallback model answer => s.withModel model fun m =>
    (.nothing, s.setWorld (s.world.update m fun x =>
      { x with backend := { x.backend with fallback := answer } }))
  | .calls model => s.withModel model fun m => (.calls (s.world.state m).backend.calls, s)
  | .lastCall model => s.withModel model fun m => (.lastCall (s.world.state m).backend.calls, s)
  | .indexed model => s.withModel model fun m => (.indexed (s.world.state m).backend.indexed, s)
  | .insertRecord model id record => s.withModel model fun m =>
    (.nothing, s.setWorld (s.world.update m fun x => { x with store := x.store.insert id record }))
  | .failNextFetch model detail => s.withModel model fun m =>
    (.nothing, s.setWorld (s.world.update m fun x => { x with store := x.store.failNext detail }))
  | .fetches model => s.withModel model fun m => (.fetches (s.world.state m).store.fetches, s)
  | .push context on => s.takeCriteria on fun c s =>
    let (guard, ctx) := (s.context context).push c
    (.count guard.depth, s.setContext context ctx)
  | .pop context collection target =>
    match (s.context context).pop? .text collection with
    | some (c, ctx) => (s.setContext context ctx).keep target c
    | none => (.nothing, s)
  | .top context collection => (orNothing ((s.context context).top? .text collection), s)
  | .popForeign context collection =>
    match (s.context context).pop? .bytes collection with
    | some (_, ctx) => (.flag true, s.setContext context ctx)
    | none => (.flag false, s)
  | .topForeign context collection =>
    (.flag ((s.context context).top? .bytes collection).isSome, s)
  | .depth context collection => (.count ((s.context context).depth collection), s)
  | .suppress context collection =>
    (.nothing, s.setContext context ((s.context context).suppress collection))
  | .isSuppressed context collection => (.flag ((s.context context).isSuppressed collection), s)
  | .describeContext context => (.text (s.context context).describe, s)
  | .withScope .. => (.nothing, s)
  | .metrics => (.totals s.world.metrics.totals, s)

/-- Takes the entries of the journal that came since the last command. -/
def drain (s : Session) : List JournalEntry × Session :=
  (s.world.journal, s.setWorld { s.world with journal := [] })

mutual

def perform (s : Session) : Command → Answer × Session
  | .withScope context on block exit => s.takeCriteria on fun c s =>
    let (guard, ctx) := (s.context context).push c
    let entry := (guard.criteria? ctx).map Criteria.selector
    let depth := ctx.depth guard.collection
    let (inner, s) := performAll (s.setContext context ctx) block
    let last := (guard.criteria? (s.context context)).map Criteria.selector
    let after := guard.drop (s.context context)
    (.block entry depth last inner exit (after.depth guard.collection), s.setContext context after)
  | command => s.performSimple command

/-- The answer to each command, with the entries of the journal that belong to it. -/
def performAll (s : Session) : List Command → List (Answer × List JournalEntry) × Session
  | [] => ([], s)
  | command :: rest =>
    let (answer, s) := perform s command
    let (entries, s) := s.drain
    let (answers, s) := performAll s rest
    ((answer, entries) :: answers, s)

end

end Session
end SearchCriteria
