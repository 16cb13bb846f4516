import SearchCriteria.Query.Predicate

/-! Terms of the query grammar.
A field with a scalar is `field:value`, a field with a range is `field:[low TO high]` or,
when the ends do not match, the same between braces; inside a range restriction a scalar
keeps a space after the colon. -/
namespace SearchCriteria

inductive Connective
  | and | or
  deriving DecidableEq, Inhabited

namespace Connective

def keyword : Connective → String
  | .and => "AND"
  | .or => "OR"

def separator (c : Connective) : String := " " ++ c.keyword ++ " "

end Connective

inductive Bounds
  | inclusive | exclusive
  deriving DecidableEq, Inhabited

namespace Bounds

def opening : Bounds → String
  | .inclusive => "["
  | .exclusive => "\x7b"

def closing : Bounds → String
  | .inclusive => "]"
  | .exclusive => "\x7d"

end Bounds

/-- The restrictions on ranges, from two given bounds to one open end. -/
inductive Comparison
  | between | atMost | atLeast | below | above
  deriving DecidableEq, Inhabited

namespace Comparison

/-- Opens the end that the comparison leaves free. -/
def adjust : Comparison → Value → Value
  | .between => id
  | .atMost => .withLower .min
  | .atLeast => .withUpper .max
  | .below => .withLower .wildcard
  | .above => .withUpper .wildcard

def bounds : Comparison → Bounds
  | .between | .atMost | .atLeast => .inclusive
  | .below | .above => .exclusive

end Comparison

namespace Predicate

def rangeTerm (field : String) (low high : Value) (b : Bounds) : String :=
  field ++ ":" ++ b.opening ++ low.render ++ " TO " ++ high.render ++ b.closing

/-- A term that asks for equality; a range is taken with its ends. -/
def pairTerm (field : String) (value : Value) : String :=
  match value.bounds? with
  | some (low, high) => rangeTerm field low high .inclusive
  | none => field ++ ":" ++ value.render

/-- A term inside a range restriction. -/
def boundedTerm (b : Bounds) (field : String) (value : Value) : String :=
  match value.bounds? with
  | some (low, high) => rangeTerm field low high b
  | none => field ++ ": " ++ value.render

def compilePairs (p : Predicate) (c : Connective) : String :=
  c.separator.intercalate (p.fields.map fun e => pairTerm e.1 e.2)

def compileRanges (p : Predicate) (b : Bounds) : String :=
  Connective.and.separator.intercalate (p.fields.map fun e => boundedTerm b e.1 e.2)

def adjust (c : Comparison) (p : Predicate) : Predicate := p.mapValues c.adjust

theorem adjust_between (p : Predicate) : p.adjust .between = p := by
  simp [adjust, mapValues, Comparison.adjust]

@[simp] theorem names_adjust (c : Comparison) (p : Predicate) : (p.adjust c).names = p.names :=
  names_mapValues c.adjust p

@[simp] theorem size_adjust (c : Comparison) (p : Predicate) : (p.adjust c).size = p.size :=
  size_mapValues c.adjust p

theorem get?_adjust (c : Comparison) (p : Predicate) (name : String) :
    (p.adjust c).get? name = (p.get? name).map c.adjust :=
  get?_mapValues c.adjust p name

theorem compilePairs_adjust (p : Predicate) (c : Comparison) (k : Connective) :
    (p.adjust c).compilePairs k =
      k.separator.intercalate (p.fields.map fun e => pairTerm e.1 (c.adjust e.2)) := by
  rw [compilePairs, adjust, mapValues, List.map_map]
  rfl

theorem compileRanges_adjust (p : Predicate) (c : Comparison) (b : Bounds) :
    (p.adjust c).compileRanges b = Connective.and.separator.intercalate
      (p.fields.map fun e => boundedTerm b e.1 (c.adjust e.2)) := by
  rw [compileRanges, adjust, mapValues, List.map_map]
  rfl

example : compilePairs ⟨[("tags", .text "nerd"), ("age", .range (.int 3) .wildcard)]⟩ .and =
    "tags:nerd AND age:[3 TO *]" := by decide +kernel
example : compileRanges (adjust .below ⟨[("x", .int 5)]⟩) .exclusive =
    "x:\x7b* TO 5\x7d" := by decide +kernel
example : compileRanges ⟨[("color", .text "red")]⟩ .inclusive = "color: red" := by
  decide +kernel

end Predicate
end SearchCriteria
