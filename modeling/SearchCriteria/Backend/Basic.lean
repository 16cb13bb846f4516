import SearchCriteria.Query.Options

/-! What a criteria asks of the outside: one search, one fetch of records, and their failures. -/
namespace SearchCriteria

/-- Where a failure outside comes from. -/
inductive BackendError
  | transport (detail : String)
  | response (detail : String)
  | store (detail : String)
  | other (detail : String)
  deriving DecidableEq, Inhabited

def BackendError.message : BackendError → String
  | transport detail => "Transport error: " ++ detail
  | response detail => "Backend error: " ++ detail
  | store detail => "Document store error: " ++ detail
  | other detail => "Search error: " ++ detail

structure SearchCall where
  collection : String
  selector : String
  options : QueryOptions
  deriving DecidableEq, Inhabited

/-- A document of the index: its attributes, sorted by name. -/
abbrev Document := NameTable Json

/-- The answer that matches the documents `ids`, which have no further attributes. -/
def responseWithIds (ids : List String) : Json :=
  .obj [("response", .obj
    [("docs", .arr (ids.map fun id => .obj [("id", .str id)])), ("numFound", .int ids.length)])]

end SearchCriteria
