import SearchCriteria.Model
import SearchCriteria.Query.SearchQuery

/-! What scopes contribute to a criteria: a query, which may depend on the arguments of the call
and on what the models have registered at that moment. -/
namespace SearchCriteria

inductive ScopeBuilder
  | fixed (query : SearchQuery)
  | dynamic (build : Catalog → List Value → SearchQuery)
  deriving Inhabited

namespace ScopeBuilder

def resolve (catalog : Catalog) (args : List Value) : ScopeBuilder → SearchQuery
  | fixed query => query
  | dynamic build => build catalog args

def describe : ScopeBuilder → String
  | fixed query => "Fixed(" ++ query.describe ++ ")"
  | dynamic _ => "Dynamic(..)"

/-- The queries of all parts merged in order; nothing if there are no parts. -/
def compose (catalog : Catalog) : List ScopeBuilder → Option SearchQuery
  | [] => none
  | parts => some (parts.foldl (fun q p => q.merge (p.resolve catalog [])) {})

/-- Whether the composed parts are what the new part would be alone. -/
def isSameDefault (catalog : Catalog) (parts : List ScopeBuilder) (part : ScopeBuilder) : Bool :=
  match compose catalog parts with
  | some current => ({} : SearchQuery).merge (part.resolve catalog []) = current
  | none => false

@[simp] theorem resolve_fixed (catalog : Catalog) (args : List Value) (query : SearchQuery) :
    (fixed query).resolve catalog args = query := rfl

@[simp] theorem compose_nil (catalog : Catalog) : compose catalog [] = none := rfl

end ScopeBuilder

end SearchCriteria
