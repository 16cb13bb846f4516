/-! Failures of reading a criteria and of calling operations by name. -/
namespace SearchCriteria

inductive CriteriaError
  | emptySelector
  | queryFailed (reason : String)
  | unknownOperation (name : String)
  deriving DecidableEq, Inhabited

namespace CriteriaError

def message : CriteriaError → String
  | emptySelector => "Criteria selector is empty, add a restriction before searching"
  | queryFailed reason => "Search query failed: " ++ reason
  | unknownOperation name => "Unknown criteria operation: " ++ name

def isEmptySelector : CriteriaError → Bool
  | emptySelector => true
  | _ => false

def isQueryFailed : CriteriaError → Bool
  | queryFailed _ => true
  | _ => false

def isUnknownOperation : CriteriaError → Bool
  | unknownOperation _ => true
  | _ => false

end CriteriaError
end SearchCriteria
