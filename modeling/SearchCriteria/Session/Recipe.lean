import SearchCriteria.Scope.Dispatch

/-! Recipes: steps, operations and finders written down as data.
The values in a recipe may refer to the arguments of the call and to what models have
registered; they are looked up whenever the recipe runs. Models are called by the names that
they had when the recipe was taken up. -/
namespace SearchCriteria

abbrev Directory := String → Option Nat

/-- What the models have registered, by their names; an unknown name has nothing. -/
def Directory.facts (d : Directory) (catalog : Catalog) (name : String) : ModelFacts :=
  match d name with
  | some id => catalog id
  | none => {}

inductive Operand where
  | const (v : Value)
  | range (low high : Operand)
  /-- The argument at a position, or another value when there are fewer. -/
  | argument (position : Nat) (fallback : Operand)
  | argumentCount
  | hasDefaultScope (model : String)
  | scopeCount (model : String)
  deriving Inhabited

namespace Operand

def eval (facts : String → ModelFacts) (args : List Value) : Operand → Value
  | const v => v
  | range low high => .range (low.eval facts args) (high.eval facts args)
  | argument position fallback => (args[position]?).getD (fallback.eval facts args)
  | argumentCount => .ofNat args.length
  | hasDefaultScope model => .bool (facts model).hasDefaultScope
  | scopeCount model => .ofNat (facts model).scopeNames.length

end Operand

/-- The pairs of a predicate, before their values are looked up. -/
abbrev PredicateRecipe := List (String × Operand)

def PredicateRecipe.eval (facts : String → ModelFacts) (args : List Value) (r : PredicateRecipe) :
    Predicate :=
  .ofList (r.map fun e => (e.1, e.2.eval facts args))

inductive StepRecipe where
  | filterText (text : String)
  | filterFields (fields : List (String × Operand))
  | anyOf (ps : List (List (String × Operand)))
  | compare (c : Comparison) (ps : List (List (String × Operand)))
  | sort (spec : SortSpec)
  | limit (rows : UInt64)
  | skip (start : UInt64)
  | merge (steps : List StepRecipe)
  deriving Inhabited

namespace StepRecipe

mutual

def eval (facts : String → ModelFacts) (args : List Value) : StepRecipe → Operation
  | filterText text => .filter (.raw text)
  | filterFields fields => .filter (.fields (PredicateRecipe.eval facts args fields))
  | anyOf ps => .anyOf (ps.map (PredicateRecipe.eval facts args))
  | compare c ps => .compare c (ps.map (PredicateRecipe.eval facts args))
  | sort spec => .sort spec
  | limit rows => .limit rows
  | skip start => .skip start
  | merge steps => .merge (({} : SearchQuery).applyAll (evalAll facts args steps))

def evalAll (facts : String → ModelFacts) (args : List Value) : List StepRecipe → List Operation
  | [] => []
  | step :: rest => step.eval facts args :: evalAll facts args rest

end

def build (facts : String → ModelFacts) (args : List Value) (steps : List StepRecipe) :
    SearchQuery :=
  ({} : SearchQuery).applyAll (evalAll facts args steps)

end StepRecipe

/-- An operation that a scope carries along: steps, then perhaps a failure. -/
structure ExtensionRecipe where
  steps : List StepRecipe := []
  error : Option CriteriaError := none
  deriving Inhabited

/-- The operation notes its name, its arguments and the selector that it starts from. -/
def ExtensionRecipe.operation (d : Directory) (name : String) (r : ExtensionRecipe) :
    ExtensionOp where
  run catalog args c :=
    { notes := ["extension " ++ name ++ " args=" ++ toString args.length ++
        " selector=" ++ c.query.selector]
      result := match r.error with
        | some e => .error e
        | none => .ok (c.draft.applyAll (StepRecipe.evalAll (d.facts catalog) args r.steps)) }

def Extension.ofRecipes (d : Directory) (rs : List (String × ExtensionRecipe)) : Extension :=
  .ofList (rs.map fun e => (e.1, e.2.operation d e.1))

inductive FinderStep
  | step (s : StepRecipe)
  | call (name : String) (args : List Operand)
  deriving Inhabited

inductive FinderBase
  | start (s : Start)
  | call (name : String)
  deriving Inhabited

structure FinderRecipe where
  base : FinderBase := .start .inScope
  steps : List FinderStep := []
  error : Option CriteriaError := none
  deriving Inhabited

namespace FinderRecipe

/-- The rest of a finder from the criteria it has; a failure ends it. -/
def follow (facts : String → ModelFacts) (args : List Value) (error : Option CriteriaError) :
    List FinderStep → Except CriteriaError Criteria → Program
  | _, .error e => .finish (.error e)
  | [], .ok c =>
    match error with
    | some e => .finish (.error e)
    | none => .finish (.ok c)
  | .step s :: rest, .ok c => follow facts args error rest (.ok (c.apply (s.eval facts args)))
  | .call name operands :: rest, .ok c =>
    .callCriteria c name (operands.map fun o => o.eval facts args) (follow facts args error rest)

/-- What a finder notes of the context that it is called in. -/
def greeting (ctx : ScopeContext) (m : Model) (args : List Value) : String :=
  "finder depth=" ++ toString (ctx.depth m.collection) ++
    " suppressed=" ++ (if ctx.isSuppressed m.collection then "true" else "false") ++
    " top=" ++ ((ctx.top? m.records m.collection).map Criteria.selector).getD "-" ++
    " args=" ++ toString args.length

def finder (d : Directory) (r : FinderRecipe) : Finder := fun m args =>
  .look fun ctx catalog =>
    let facts := d.facts catalog
    .note (greeting ctx m args)
      (match r.base with
        | .start s => .start m s fun c => follow facts args r.error r.steps (.ok c)
        | .call name => .callModel m name args (follow facts args r.error r.steps))

end FinderRecipe
end SearchCriteria
