import SearchCriteria.Backend.Basic
import SearchCriteria.Text.Position

/-! Documents of the index.
A saved record is indexed by its attributes that are not null, under its identifier. -/
namespace SearchCriteria

/-- A saved record: its identifier, and its attributes or why they cannot be written. -/
structure SavedRecord where
  id : String
  attributes : Except String Json

namespace Document

def withoutNulls (fields : List (String × Json)) : Document := fields.filter fun e => !e.2.isNull

def withId (id : String) (d : Document) : Document := d.set "id" (.str id)

/-- The document of a record, which has to have attributes; the report of why they cannot be
written has its position in the usual form. -/
def ofRecord (record : SavedRecord) : Except BackendError Document :=
  match record.attributes with
  | .ok (.obj fields) => .ok (withId record.id (withoutNulls fields))
  | .ok j =>
    .error (.other ("record " ++ record.id ++ " serialised to " ++ j.text ++
      ", expected an object"))
  | .error detail => .error (.other (Text.tidyPosition detail))

end Document
end SearchCriteria
