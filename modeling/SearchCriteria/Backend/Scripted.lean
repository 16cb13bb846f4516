import SearchCriteria.Backend.Basic

/-! A backend that answers from a script and keeps what it was asked.
Queued answers are given first, in order; after them every search gets the same answer. -/
namespace SearchCriteria

structure ScriptedBackend where
  queued : List (Except BackendError Json) := []
  fallback : Json := responseWithIds []
  calls : List SearchCall := []
  indexed : List (String × Document) := []

namespace ScriptedBackend

def queue (b : ScriptedBackend) (answer : Except BackendError Json) : ScriptedBackend :=
  { b with queued := b.queued ++ [answer] }

def search (b : ScriptedBackend) (call : SearchCall) :
    Except BackendError Json × ScriptedBackend :=
  match b.queued with
  | answer :: rest => (answer, { b with queued := rest, calls := b.calls ++ [call] })
  | [] => (.ok b.fallback, { b with calls := b.calls ++ [call] })

def index (b : ScriptedBackend) (collection : String) (document : Document) : ScriptedBackend :=
  { b with indexed := b.indexed ++ [(collection, document)] }

@[simp] theorem calls_queue (b : ScriptedBackend) (answer : Except BackendError Json) :
    (b.queue answer).calls = b.calls := rfl

@[simp] theorem calls_search (b : ScriptedBackend) (call : SearchCall) :
    (b.search call).2.calls = b.calls ++ [call] := by
  unfold search; split <;> rfl

@[simp] theorem indexed_search (b : ScriptedBackend) (call : SearchCall) :
    (b.search call).2.indexed = b.indexed := by
  unfold search; split <;> rfl

end ScriptedBackend
end SearchCriteria
