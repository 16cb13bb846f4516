import SearchCriteria.Query.Options

/-! The journal: what happened, in order, one line an entry. -/
namespace SearchCriteria

inductive OperationKind
  | scope | finder
  deriving DecidableEq, Inhabited

def OperationKind.title : OperationKind → String
  | scope => "Scope"
  | finder => "Finder"

inductive JournalEntry
  | searching (collection selector : String) (options : QueryOptions)
  | fetching (collection : String) (count : Nat)
  | indexing (collection id : String)
  | defaultUnchanged (collection : String)
  | overwritten (kind : OperationKind) (collection name : String)
  | searchFailed (collection selector reason : String)
  | note (text : String)
  deriving DecidableEq, Inhabited

namespace JournalEntry

def line : JournalEntry → String
  | searching collection selector options =>
    "DEBUG Searching " ++ collection ++ " for " ++ selector ++ " with " ++ options.describe
  | fetching collection count =>
    "DEBUG Fetching " ++ toString count ++ " " ++ collection ++ " records"
  | indexing collection id => "DEBUG Indexing " ++ id ++ " into " ++ collection
  | defaultUnchanged collection =>
    "DEBUG Default scope of " ++ collection ++ " unchanged, same value registered again"
  | overwritten kind collection name =>
    "WARN " ++ kind.title ++ " " ++ name ++ " on " ++ collection ++
      " overwrites an existing operation of the same name"
  | searchFailed collection selector reason =>
    "WARN Search on " ++ collection ++ " failed for selector " ++ selector ++ ": " ++ reason
  | note text => text

end JournalEntry
end SearchCriteria
