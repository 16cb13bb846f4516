/-! Models: a collection that is searched, the kind of its records, and what can be asked about
a model while it is in use. -/
namespace SearchCriteria

/-- The type of the records of a model, by its number. -/
structure RecordKind where
  number : Nat
  deriving DecidableEq, Inhabited

namespace RecordKind

def text : RecordKind := ⟨0⟩
def bytes : RecordKind := ⟨1⟩

end RecordKind

/-- A model: its number, the collection it searches and its page size. -/
structure Model where
  id : Nat
  collection : String
  defaultRows : Option UInt64 := none
  records : RecordKind := .text
  deriving DecidableEq, Inhabited

/-- What a model has registered, as far as it tells. -/
structure ModelFacts where
  hasDefaultScope : Bool := false
  scopeNames : List String := []
  finderNames : List String := []
  deriving DecidableEq, Inhabited

abbrev Catalog := Nat → ModelFacts

end SearchCriteria
