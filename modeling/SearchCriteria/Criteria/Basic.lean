import SearchCriteria.Criteria.Extension

/-! Criteria: a query bound to a model, the operations it carries, and what reading it found.
Every step of a chain drops what was found, even a step that adds nothing. -/
namespace SearchCriteria

structure Criteria where
  model : Model
  query : SearchQuery := {}
  extensions : Extension := []
  cache : ResultCache := {}
  deriving Inhabited

namespace Criteria

def selector (c : Criteria) : String := c.query.selector
def options (c : Criteria) : QueryOptions := c.query.options
def isCached (c : Criteria) : Bool := c.cache.documents.isSome
def response (c : Criteria) : Option Json := c.cache.response

/-- The same criteria with nothing found yet. -/
def fork (c : Criteria) : Criteria := { c with cache := {} }

def apply (c : Criteria) (op : Operation) : Criteria := { c.fork with query := c.query.apply op }

def applyAll (c : Criteria) (ops : List Operation) : Criteria := ops.foldl apply c

def merge (c : Criteria) (query : SearchQuery) : Criteria := c.apply (.merge query)

/-- Operations of `e` replace those of the same name; what was found stays. -/
def withExtension (c : Criteria) (e : Extension) : Criteria :=
  { c with extensions := c.extensions.extend e }

def effectiveOptions (c : Criteria) : QueryOptions :=
  { c.options with rows := c.options.rows.or c.model.defaultRows }

def view (c : Criteria) : CriteriaView := ⟨c.model, c.query, c.cache, c.extensions.names⟩

/-- The criteria that one of its operations made. -/
def complete (c : Criteria) (d : CriteriaDraft ExtensionOp) : Criteria where
  model := d.model
  query := d.query
  extensions := NameTable.extend (c.extensions.filter fun e => d.kept.contains e.1) d.added
  cache := d.cache

def describe (c : Criteria) : String :=
  "Criteria \x7b collection: " ++ Text.quoted c.model.collection ++ ", selector: " ++
    Text.quoted c.selector ++ ", options: " ++ c.options.describe ++ ", extensions: [" ++
    Text.quotedList c.extensions.names ++ "], cached: " ++
    (if c.isCached then "true" else "false") ++ " \x7d"

@[simp] theorem fork_model (c : Criteria) : c.fork.model = c.model := rfl
@[simp] theorem fork_query (c : Criteria) : c.fork.query = c.query := rfl
@[simp] theorem fork_extensions (c : Criteria) : c.fork.extensions = c.extensions := rfl
@[simp] theorem fork_fork (c : Criteria) : c.fork.fork = c.fork := rfl

@[simp] theorem apply_model (c : Criteria) (op : Operation) : (c.apply op).model = c.model := rfl
@[simp] theorem apply_query (c : Criteria) (op : Operation) :
    (c.apply op).query = c.query.apply op := rfl
@[simp] theorem apply_extensions (c : Criteria) (op : Operation) :
    (c.apply op).extensions = c.extensions := rfl
@[simp] theorem apply_cache (c : Criteria) (op : Operation) : (c.apply op).cache = {} := rfl

@[simp] theorem query_applyAll (c : Criteria) (ops : List Operation) :
    (c.applyAll ops).query = c.query.applyAll ops := by
  induction ops generalizing c with
  | nil => rfl
  | cons op ops ih => exact ih (c.apply op)

@[simp] theorem model_applyAll (c : Criteria) (ops : List Operation) :
    (c.applyAll ops).model = c.model := by
  induction ops generalizing c with
  | nil => rfl
  | cons op ops ih => exact ih (c.apply op)

/-- Steps change the query alone, and any step drops what was found. -/
theorem applyAll_eq (c : Criteria) (ops : List Operation) :
    c.applyAll ops =
      ⟨c.model, c.query.applyAll ops, c.extensions, if ops.isEmpty then c.cache else {}⟩ := by
  induction ops generalizing c with
  | nil => rfl
  | cons op ops ih =>
    rw [applyAll, List.foldl_cons, ← applyAll, ih, apply_cache, ite_self]
    rfl

/-- An operation that makes nothing new gives the criteria back, with what was found. -/
theorem complete_draft (c : Criteria) : c.complete c.view.draft = c := by
  have hkept : (c.extensions.filter fun e => c.extensions.names.contains e.1) = c.extensions :=
    List.filter_eq_self.2 fun e he => by
      rw [List.contains_iff_mem]
      exact List.mem_map_of_mem he
  rw [complete, view, CriteriaView.draft, hkept]
  rfl

theorem complete_applyAll (c : Criteria) (d : CriteriaDraft ExtensionOp) (ops : List Operation) :
    c.complete (d.applyAll ops) = (c.complete d).applyAll ops := by
  induction ops generalizing d with
  | nil => rfl
  | cons op ops ih => exact ih (d.apply op)

end Criteria
end SearchCriteria
