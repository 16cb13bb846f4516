import SearchCriteria.Backend.Basic

/-! Records kept in memory under their identifiers.
A fetch skips identifiers without a record and keeps the order of the others. -/
namespace SearchCriteria

structure MemoryStore where
  records : NameTable String := []
  fetches : List (List String) := []
  failure : Option String := none
  deriving Inhabited

namespace MemoryStore

def ofList (records : List (String × String)) : MemoryStore := { records := .ofList records }

def insert (s : MemoryStore) (id record : String) : MemoryStore :=
  { s with records := s.records.set id record }

def failNext (s : MemoryStore) (detail : String) : MemoryStore := { s with failure := some detail }

def find (s : MemoryStore) (ids : List String) : List String :=
  ids.filterMap fun id => s.records.get? id

def fetch (s : MemoryStore) (ids : List String) :
    Except BackendError (List String) × MemoryStore :=
  let after := { s with fetches := s.fetches ++ [ids], failure := none }
  match s.failure with
  | some detail => (.error (.store detail), after)
  | none => (.ok (s.find ids), after)

@[simp] theorem records_fetch (s : MemoryStore) (ids : List String) :
    (s.fetch ids).2.records = s.records := by
  unfold fetch; split <;> rfl

@[simp] theorem fetches_fetch (s : MemoryStore) (ids : List String) :
    (s.fetch ids).2.fetches = s.fetches ++ [ids] := by
  unfold fetch; split <;> rfl

end MemoryStore
end SearchCriteria
