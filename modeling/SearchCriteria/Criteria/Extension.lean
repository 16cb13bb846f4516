import SearchCriteria.Criteria.Error
import SearchCriteria.Model
import SearchCriteria.Query.SearchQuery
import SearchCriteria.Response

/-! Operations that criteria carry.
An operation gets a criteria with everything that was found, and makes a criteria of its own:
the same one after some steps, or any other, which carries what it likes of the operations there
and further ones. -/
namespace SearchCriteria

/-- What reads found since the last step. -/
structure ResultCache where
  response : Option Json := none
  parsed : Option ParsedResponse := none
  documents : Option (List String) := none
  deriving Inhabited

/-- A criteria as its operations see it; of these they see the names. -/
structure CriteriaView where
  model : Model
  query : SearchQuery
  cache : ResultCache
  carried : List String

/-- A criteria that is being made out of another one. -/
structure CriteriaDraft (Op : Type) where
  model : Model
  query : SearchQuery := {}
  cache : ResultCache := {}
  /-- Operations of the other criteria that it carries as well. -/
  kept : List String := []
  added : List (String × Op) := []

/-- What comes out of an operation, and its remarks for the journal. -/
structure Reply (Op : Type) where
  notes : List String := []
  result : Except CriteriaError (CriteriaDraft Op)

structure ExtensionOp where
  run : Catalog → List Value → CriteriaView → Reply ExtensionOp

abbrev Extension := NameTable ExtensionOp

def Extension.describe (e : Extension) : String :=
  "\x7b" ++ Text.quotedList e.names ++ "\x7d"

def CriteriaView.draft {Op : Type} (c : CriteriaView) : CriteriaDraft Op :=
  { model := c.model, query := c.query, cache := c.cache, kept := c.carried }

namespace CriteriaDraft

variable {Op : Type}

def apply (d : CriteriaDraft Op) (op : Operation) : CriteriaDraft Op :=
  { d with query := d.query.apply op, cache := {} }

def applyAll (d : CriteriaDraft Op) (ops : List Operation) : CriteriaDraft Op := ops.foldl apply d

end CriteriaDraft
end SearchCriteria
