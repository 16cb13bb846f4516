import SearchCriteria.Json.Basic
import SearchCriteria.Text.Quoted

/-! Options sent beside a selector: the order of the hits, the page size and the offset.
Merging takes every option from the second options that has it there. -/
namespace SearchCriteria

/-- An option that is absent leaves the choice to the backend. -/
structure QueryOptions where
  sort : Option String := none
  rows : Option UInt64 := none
  start : Option UInt64 := none
  deriving DecidableEq, Inhabited

namespace QueryOptions

def merge (a b : QueryOptions) : QueryOptions where
  sort := b.sort.or a.sort
  rows := b.rows.or a.rows
  start := b.start.or a.start

/-- Appends a clause; an empty order is replaced. -/
def pushSort (o : QueryOptions) (clause : String) : QueryOptions :=
  match o.sort with
  | some s => if s = "" then { o with sort := some clause } else
      { o with sort := some (s ++ ", " ++ clause) }
  | none => { o with sort := some clause }

def toJson (o : QueryOptions) : Json :=
  .obj ((o.rows.map fun n => ("rows", Json.count n)).toList ++
    (o.sort.map fun s => ("sort", Json.str s)).toList ++
    (o.start.map fun n => ("start", Json.count n)).toList)

/-- An optional entry: absent and null are the same, anything else has to convert. -/
def entry? {α : Type} (convert : Json → Option α) : Option Json → Option (Option α)
  | none => some none
  | some .null => some none
  | some j => (convert j).map some

/-- Reads an object by names, or a list in the order sort, rows, start. -/
def ofJson? : Json → Option QueryOptions
  | .obj fields => do
    let sort ← entry? Json.str? (NameTable.get? "sort" fields)
    let rows ← entry? Json.count? (NameTable.get? "rows" fields)
    let start ← entry? Json.count? (NameTable.get? "start" fields)
    return { sort, rows, start }
  | .arr items => do
    if 3 < items.length then none
    else
      let sort ← entry? Json.str? items[0]?
      let rows ← entry? Json.count? items[1]?
      let start ← entry? Json.count? items[2]?
      return { sort, rows, start }
  | _ => none

def describeOption : Option String → String
  | none => "None"
  | some s => "Some(" ++ s ++ ")"

def describe (o : QueryOptions) : String :=
  "QueryOptions \x7b sort: " ++ describeOption (o.sort.map Text.quoted) ++
    ", rows: " ++ describeOption (o.rows.map fun n => toString n.toNat) ++
    ", start: " ++ describeOption (o.start.map fun n => toString n.toNat) ++ " \x7d"

@[simp] theorem merge_sort (a b : QueryOptions) : (a.merge b).sort = b.sort.or a.sort := rfl
@[simp] theorem merge_rows (a b : QueryOptions) : (a.merge b).rows = b.rows.or a.rows := rfl
@[simp] theorem merge_start (a b : QueryOptions) : (a.merge b).start = b.start.or a.start := rfl

@[simp] theorem empty_merge (o : QueryOptions) : ({} : QueryOptions).merge o = o := by
  simp [merge]

@[simp] theorem merge_self (o : QueryOptions) : o.merge o = o := by
  simp [merge]

end QueryOptions
end SearchCriteria
