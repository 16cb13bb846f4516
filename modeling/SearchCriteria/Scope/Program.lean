import SearchCriteria.Scope.Context

/-! Programs of finders.
A program is a tree of steps: it starts criteria, looks at its context, calls operations by
name and runs blocks under a frame, and what follows may depend on what came out. It ends
with a criteria or a failure. -/
namespace SearchCriteria

inductive Start
  /-- With what is in scope, else with the default scope unless it is left out. -/
  | inScope
  | fresh
  | empty
  /-- With what is in scope; the default scope is left out from now on. -/
  | withoutDefault
  deriving DecidableEq, Inhabited

inductive Program where
  | finish (result : Except CriteriaError Criteria)
  | note (text : String) (next : Program)
  | look (next : ScopeContext → Catalog → Program)
  | start (model : Model) (base : Start) (next : Criteria → Program)
  | callModel (model : Model) (name : String) (args : List Value)
      (next : Except CriteriaError Criteria → Program)
  | callCriteria (c : Criteria) (name : String) (args : List Value)
      (next : Except CriteriaError Criteria → Program)
  | withScope (c : Criteria) (block : Program)
      (next : Except CriteriaError Criteria → Program)

instance : Inhabited Program := ⟨.finish (.error .emptySelector)⟩

/-- A finder gets the model it was registered on and the arguments of the call. -/
abbrev Finder := Model → List Value → Program

/-- How a program ended, the context it left and the remarks it made. -/
structure Outcome where
  result : Except CriteriaError Criteria
  context : ScopeContext
  notes : List String := []

/-- The same outcome after earlier remarks. -/
def Outcome.after (notes : List String) (o : Outcome) : Outcome :=
  { o with notes := notes ++ o.notes }

@[simp] theorem Outcome.result_after (notes : List String) (o : Outcome) :
    (o.after notes).result = o.result := rfl
@[simp] theorem Outcome.context_after (notes : List String) (o : Outcome) :
    (o.after notes).context = o.context := rfl

end SearchCriteria
