import SearchCriteria.Criteria.Basic

/-! The calls of the two builders. A query and a criteria answer to the same sixteen names, each
with bodies of its own: a query sets its page itself, a criteria has its query changed and drops
what was found. -/
namespace SearchCriteria

/-- A call on a builder, under the name by which it is made. -/
inductive Method
  | filter (clause : Clause)
  | or (ps : List Predicate)
  | anyOf (ps : List Predicate)
  | between (ps : List Predicate)
  | lte (ps : List Predicate)
  | gte (ps : List Predicate)
  | lt (ps : List Predicate)
  | gt (ps : List Predicate)
  | sort (spec : SortSpec)
  | orderBy (spec : SortSpec)
  | order (spec : SortSpec)
  | limit (n : UInt64)
  | rows (n : UInt64)
  | skip (n : UInt64)
  | start (n : UInt64)
  | merge (other : SearchQuery)
  deriving Inhabited

namespace SearchQuery

/-- Appends the ranges of predicates as they are. -/
def addRanges (q : SearchQuery) (ps : List Predicate) (b : Bounds) : SearchQuery :=
  { q with selector := pushGroup q.selector (ps.map fun p => p.compileRanges b) .and }

/-- Appends the ranges of predicates whose free ends are opened first. -/
def addBounded (q : SearchQuery) (ps : List Predicate) (transform : Predicate → Predicate)
    (b : Bounds) : SearchQuery :=
  q.addRanges (ps.map transform) b

def setRows (q : SearchQuery) (n : UInt64) : SearchQuery :=
  { q with options := { q.options with rows := some n } }

def setStart (q : SearchQuery) (n : UInt64) : SearchQuery :=
  { q with options := { q.options with start := some n } }

def invoke (q : SearchQuery) : Method → SearchQuery
  | .filter clause => q.filter clause
  | .or ps | .anyOf ps => q.anyOf ps
  | .between ps => q.addRanges ps .inclusive
  | .lte ps => q.addBounded ps (Predicate.adjust .atMost) .inclusive
  | .gte ps => q.addBounded ps (Predicate.adjust .atLeast) .inclusive
  | .lt ps => q.addBounded ps (Predicate.adjust .below) .exclusive
  | .gt ps => q.addBounded ps (Predicate.adjust .above) .exclusive
  | .sort spec | .orderBy spec | .order spec => q.sort spec
  | .limit n | .rows n => { q with options.rows := some n }
  | .skip n | .start n => { q with options.start := some n }
  | .merge other => q.merge other

end SearchQuery

namespace Criteria

/-- Changes the query, and drops what was found. -/
def change (c : Criteria) (f : SearchQuery → SearchQuery) : Criteria :=
  { c with query := f c.query, cache := {} }

def invoke (c : Criteria) : Method → Criteria
  | .filter clause => c.change fun q => q.filter clause
  | .or ps | .anyOf ps => c.change fun q => q.anyOf ps
  | .between ps => c.change fun q => q.addRanges ps .inclusive
  | .lte ps => c.change fun q => q.addBounded ps (Predicate.adjust .atMost) .inclusive
  | .gte ps => c.change fun q => q.addBounded ps (Predicate.adjust .atLeast) .inclusive
  | .lt ps => c.change fun q => q.addBounded ps (Predicate.adjust .below) .exclusive
  | .gt ps => c.change fun q => q.addBounded ps (Predicate.adjust .above) .exclusive
  | .sort spec | .orderBy spec | .order spec => c.change fun q => q.sort spec
  | .limit n | .rows n => c.change fun q => q.setRows n
  | .skip n | .start n => c.change fun q => q.setStart n
  | .merge other => c.change fun q => q.merge other

end Criteria

/-! Steps of a chain. -/

def Method.operation : Method → Operation
  | filter clause => .filter clause
  | or ps | anyOf ps => .anyOf ps
  | between ps => .compare .between ps
  | lte ps => .compare .atMost ps
  | gte ps => .compare .atLeast ps
  | lt ps => .compare .below ps
  | gt ps => .compare .above ps
  | sort spec | orderBy spec | order spec => .sort spec
  | limit n | rows n => .limit n
  | skip n | start n => .skip n
  | merge other => .merge other

theorem SearchQuery.addBounded_eq_compare (q : SearchQuery) (c : Comparison)
    (ps : List Predicate) : q.addBounded ps (Predicate.adjust c) c.bounds = q.compare c ps := by
  rw [addBounded, addRanges, compare, List.map_map]
  rfl

theorem SearchQuery.addRanges_eq_compare (q : SearchQuery) (ps : List Predicate) :
    q.addRanges ps .inclusive = q.compare .between ps := by
  simp only [addRanges, compare, Predicate.adjust_between]
  rfl

theorem SearchQuery.invoke_eq_apply (q : SearchQuery) (m : Method) :
    q.invoke m = q.apply m.operation := by
  cases m with
  | between ps => exact q.addRanges_eq_compare ps
  | lte ps => exact q.addBounded_eq_compare .atMost ps
  | gte ps => exact q.addBounded_eq_compare .atLeast ps
  | lt ps => exact q.addBounded_eq_compare .below ps
  | gt ps => exact q.addBounded_eq_compare .above ps
  | _ => rfl

/-- Under each name a criteria has its query do what the query does under that name. -/
theorem Criteria.invoke_eq_change (c : Criteria) (m : Method) :
    c.invoke m = c.change fun q => q.invoke m := by
  cases m <;> rfl

theorem Criteria.invoke_eq_apply (c : Criteria) (m : Method) :
    c.invoke m = c.apply m.operation := by
  rw [invoke_eq_change, change, SearchQuery.invoke_eq_apply]
  rfl

end SearchCriteria
