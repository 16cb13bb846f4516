import SearchCriteria.Query.Options
import SearchCriteria.Query.Sort
import SearchCriteria.Query.Term
import SearchCriteria.Text.Blank

/-! Queries: a selector that grows by restrictions, and options.
Every restriction stands in parentheses; from the second on it follows a connective.
What is blank restricts nothing and is left out. -/
namespace SearchCriteria

/-- What `filter` takes: query text as it is, or a predicate all of whose fields match. -/
inductive Clause
  | raw (text : String)
  | fields (p : Predicate)
  deriving Inhabited

def Clause.compile : Clause → String
  | .raw text => text
  | .fields p => p.compilePairs .and

structure SearchQuery where
  selector : String := ""
  options : QueryOptions := {}
  deriving DecidableEq, Inhabited

namespace SearchQuery

open Text

def isBlank (q : SearchQuery) : Bool := Text.isBlank q.selector

/-- Whether the last character opens a group. -/
def endsOpen (selector : String) : Bool := selector.toList.getLast? == some '('

def joint (selector : String) (c : Connective) : String :=
  if Text.isBlank selector || endsOpen selector then "" else c.separator

def pushRestriction (selector fragment : String) (c : Connective) : String :=
  if Text.isBlank fragment then selector
  else selector ++ joint selector c ++ "(" ++ fragment ++ ")"

/-- Appends one restriction made of a group for each fragment. -/
def pushGroup (selector : String) (fragments : List String) (inner : Connective) : String :=
  let fragments := fragments.filter fun f => !Text.isBlank f
  if fragments.isEmpty then selector
  else
    fragments.foldl (fun s f => pushRestriction s f inner) (selector ++ joint selector .and ++ "(")
      ++ ")"

def filter (q : SearchQuery) (clause : Clause) : SearchQuery :=
  { q with selector := pushRestriction q.selector clause.compile .and }

/-- At least one field of at least one predicate matches. -/
def anyOf (q : SearchQuery) (ps : List Predicate) : SearchQuery :=
  { q with selector := pushGroup q.selector (ps.map fun p => p.compilePairs .or) .or }

/-- All fields of all predicates match as compared. -/
def compare (q : SearchQuery) (c : Comparison) (ps : List Predicate) : SearchQuery :=
  { q with
    selector := pushGroup q.selector (ps.map fun p => (p.adjust c).compileRanges c.bounds) .and }

def sort (q : SearchQuery) (spec : SortSpec) : SearchQuery :=
  { q with options := spec.clauses.foldl QueryOptions.pushSort q.options }

def limit (q : SearchQuery) (rows : UInt64) : SearchQuery :=
  { q with options := { q.options with rows := some rows } }

def skip (q : SearchQuery) (start : UInt64) : SearchQuery :=
  { q with options := { q.options with start := some start } }

/-- Restricts further by the other selector and takes the other options. -/
def merge (q other : SearchQuery) : SearchQuery where
  selector := pushRestriction q.selector other.selector .and
  options := q.options.merge other.options

def describe (q : SearchQuery) : String :=
  "SearchQuery \x7b selector: " ++ quoted q.selector ++ ", options: " ++ q.options.describe ++
    " \x7d"

example : (({} : SearchQuery).filter (.raw "name:Joe")
    |>.anyOf [⟨[("a", .int 1), ("b", .int 2)]⟩, ⟨[]⟩, ⟨[("c", .int 3)]⟩]
    |>.compare .atLeast [⟨[("x", .int 5)]⟩]).selector =
    "(name:Joe) AND ((a:1 OR b:2) OR (c:3)) AND ((x:[5 TO 100000000000000000000]))" := by
  decide +kernel

end SearchQuery

inductive Operation
  | filter (clause : Clause)
  | anyOf (ps : List Predicate)
  | compare (c : Comparison) (ps : List Predicate)
  | sort (spec : SortSpec)
  | limit (rows : UInt64)
  | skip (start : UInt64)
  | merge (other : SearchQuery)
  deriving Inhabited

namespace SearchQuery

def apply (q : SearchQuery) : Operation → SearchQuery
  | .filter clause => q.filter clause
  | .anyOf ps => q.anyOf ps
  | .compare c ps => q.compare c ps
  | .sort spec => q.sort spec
  | .limit rows => q.limit rows
  | .skip start => q.skip start
  | .merge other => q.merge other

def applyAll (q : SearchQuery) (ops : List Operation) : SearchQuery := ops.foldl apply q

@[simp] theorem applyAll_nil (q : SearchQuery) : q.applyAll [] = q := rfl
@[simp] theorem applyAll_cons (q : SearchQuery) (op : Operation) (ops : List Operation) :
    q.applyAll (op :: ops) = (q.apply op).applyAll ops := rfl

theorem applyAll_append (q : SearchQuery) (xs ys : List Operation) :
    q.applyAll (xs ++ ys) = (q.applyAll xs).applyAll ys := List.foldl_append

end SearchQuery
end SearchCriteria
