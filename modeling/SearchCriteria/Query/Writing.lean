import SearchCriteria.Query.Term

/-! The ways of writing a predicate: at once or one field after the other, and with ends opened for
a comparison. -/
namespace SearchCriteria

inductive Writing
  | empty
  | pair (field : String) (value : Value)
  /-- Pairs that are given one by one, as an iteration yields them. -/
  | collected (entries : List (String × Value))
  | array (entries : Array (String × Value))
  | literal (entries : List (String × Value))
  /-- One field more, whether the predicate is changed in place or handed on. -/
  | insert (before : Writing) (field : String) (value : Value)
  | adjust (before : Writing) (c : Comparison)
  deriving Inhabited

def Writing.predicate : Writing → Predicate
  | empty => {}
  | pair field value => ({} : Predicate).insert field value
  | collected entries => .ofList entries
  | array entries => .ofList entries.toList
  | literal entries => entries.foldl (fun p e => p.insert e.1 e.2) {}
  | insert before field value => before.predicate.insert field value
  | adjust before c => before.predicate.adjust c

end SearchCriteria
