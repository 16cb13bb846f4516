import SearchCriteria.Text.Lowercase

/-! Orders of hits: clauses of a field and a direction, or text taken as it is. -/
namespace SearchCriteria

inductive SortDirection
  | asc | desc
  deriving DecidableEq, Inhabited

def SortDirection.keyword : SortDirection → String
  | .asc => "asc"
  | .desc => "desc"

inductive SortSpec
  | raw (clause : String)
  | fields (clauses : List (String × String))
  deriving DecidableEq, Inhabited

namespace SortSpec

def directed (clauses : List (String × SortDirection)) : SortSpec :=
  fields (clauses.map fun e => (e.1, e.2.keyword))

def named (field direction : String) : SortSpec := fields [(field, Text.lowercase direction)]

def clauses : SortSpec → List String
  | raw clause => [clause]
  | fields entries => entries.map fun e => e.1 ++ " " ++ e.2

end SortSpec
end SearchCriteria
