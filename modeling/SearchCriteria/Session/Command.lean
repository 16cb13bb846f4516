import SearchCriteria.Config.Basic
import SearchCriteria.Session.Recipe
import SearchCriteria.World

/-! Commands of a session and the answers to them.
Models, contexts and criteria are called by name. -/
namespace SearchCriteria

inductive BuilderRecipe
  | fixed (steps : List StepRecipe)
  | dynamic (steps : List StepRecipe)
  /-- The query that a criteria has now. -/
  | criteria (name : String)
  /-- The same, and the criteria is given away. -/
  | ownedCriteria (name : String)
  deriving Inhabited

inductive ReadKind
  | total | ids | hits | documents | execute
  deriving DecidableEq, Inhabited

inductive BlockExit
  | finished | gaveUp | unwound
  deriving DecidableEq, Inhabited

inductive Command where
  | addModel (name collection : String) (ids : List String) (records : List (String × String))
      (config : Option SearchConfig)
  | make (base : Start) (model context target : String)
  | fromQuery (model : String) (steps : List StepRecipe) (target : String)
  | startWith (model : String) (step : StepRecipe) (target : String)
  | applyScope (model context name : String) (args : List Operand) (target : String)
  | callModel (model context name : String) (args : List Operand) (target : String)
  | fork (on target : String)
  | chain (on : String) (step : StepRecipe)
  | call (on context name : String) (args : List Operand)
  | mergeCriteria (on other : String)
  | withExtension (on : String) (extension : List (String × ExtensionRecipe))
  | read (kind : ReadKind) (on : String)
  | intoDocuments (on : String)
  | state (on : String)
  | response (on : String)
  | hasOperation (on name : String)
  | modelOf (on : String)
  | describe (on : String)
  | defineScope (model name : String) (builder : BuilderRecipe)
      (extension : List (String × ExtensionRecipe))
  | defaultScope (model : String) (builder : BuilderRecipe)
  | defineFinder (model name : String) (body : FinderRecipe)
  | respondsTo (model name : String)
  | hasDefaultScope (model : String)
  | scopeNames (model : String)
  | defaultQuery (model : String)
  | describeModel (model : String)
  | search (model selector : String) (options : QueryOptions)
  | findByIds (model : String) (ids : List String)
  | index (model : String) (record : SavedRecord)
  | queueAnswer (model : String) (answer : Except BackendError Json)
  | setFallback (model : String) (answer : Json)
  | calls (model : String)
  | lastCall (model : String)
  | indexed (model : String)
  | insertRecord (model id record : String)
  | failNextFetch (model detail : String)
  | fetches (model : String)
  /-- Pushes a frame that nothing pops by itself. -/
  | push (context on : String)
  | pop (context collection target : String)
  | top (context collection : String)
  | popForeign (context collection : String)
  | topForeign (context collection : String)
  | depth (context collection : String)
  | suppress (context collection : String)
  | isSuppressed (context collection : String)
  | describeContext (context : String)
  | withScope (context on : String) (block : List Command) (exit : BlockExit)
  | metrics

inductive Finding
  | total (n : UInt64)
  | ids (ids : List String)
  | hits (docs : List Document)
  | records (records : List String)
  | raw (answer : Json)
  deriving Inhabited

inductive Answer where
  | nothing
  | flag (b : Bool)
  | count (n : Nat)
  | text (s : String)
  | names (xs : List String)
  | json (j : Json)
  | query (q : SearchQuery)
  | criteria (c : Criteria)
  | model (m : Model)
  | found (f : Finding) (c : Criteria)
  | notFound (e : CriteriaError) (c : Criteria)
  | taken (f : Finding)
  | calls (calls : List SearchCall)
  | lastCall (calls : List SearchCall)
  | indexed (documents : List (String × Document))
  | indexer (collection description : String)
  | fetches (ids : List (List String))
  | totals (totals : List (String × Nat))
  /-- The top selector and the depth when a block begins, the top selector when it ends, the
  answers in between, and the depth after it. -/
  | block (entry : Option String) (depth : Nat) (last : Option String)
      (inner : List (Answer × List JournalEntry)) (exit : BlockExit) (depthAfter : Nat)
  | failed (e : CriteriaError)
  | backendFailed (e : BackendError)
  | noCriteria (name : String)
  | noModel (name : String)
  | unending
  deriving Inhabited

end SearchCriteria
