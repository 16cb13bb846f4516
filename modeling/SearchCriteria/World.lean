import SearchCriteria.Backend.MemoryStore
import SearchCriteria.Backend.Scripted
import SearchCriteria.Criteria.Reading
import SearchCriteria.Indexing
import SearchCriteria.Journal
import SearchCriteria.Metrics
import SearchCriteria.Scope.Dispatch

/-! All models with what they have registered and whom they ask, the journal and the metrics.
Every search and fetch is entered in the journal when it begins and measured when it ends. -/
namespace SearchCriteria

structure ModelState where
  model : Model
  registry : Registry := {}
  backend : ScriptedBackend := {}
  store : MemoryStore := {}
  deriving Inhabited

/-- The model numbered `n` stands at position `n`. -/
structure World where
  models : List ModelState := []
  journal : List JournalEntry := []
  metrics : Metrics := []
  deriving Inhabited

namespace World

def state (w : World) (m : Model) : ModelState := (w.models[m.id]?).getD { model := m }

def update (w : World) (m : Model) (f : ModelState → ModelState) : World :=
  { w with models := w.models.modify m.id f }

def registries (w : World) : Registries := fun id =>
  match w.models[id]? with
  | some s => s.registry
  | none => {}

def catalog (w : World) : Catalog := w.registries.catalog

def log (w : World) (e : JournalEntry) : World := { w with journal := w.journal ++ [e] }

def logNotes (w : World) (notes : List String) : World :=
  { w with journal := w.journal ++ notes.map JournalEntry.note }

def measure (w : World) (x : Measurement) : World := { w with metrics := w.metrics ++ [x] }

def addModel (w : World) (collection : String) (defaultRows : Option UInt64)
    (backend : ScriptedBackend) (store : MemoryStore) : Model × World :=
  let model := { id := w.models.length, collection, defaultRows }
  (model, { w with models := w.models ++ [{ model, backend, store }] })

def search (m : Model) (selector : String) (options : QueryOptions) (w : World) :
    Except BackendError Json × World :=
  let w := w.log (.searching m.collection selector options)
  let (answer, backend) := (w.state m).backend.search ⟨m.collection, selector, options⟩
  (answer, (w.update m fun s => { s with backend }).measure
    (.search m.collection answer.isOk 0))

def fetch (m : Model) (ids : List String) (w : World) :
    Except BackendError (List String) × World :=
  let w := w.log (.fetching m.collection ids.length)
  let (answer, store) := (w.state m).store.fetch ids
  let w := w.update m fun s => { s with store }
  match answer with
  | .ok records => (.ok records, w.measure (.fetch m.collection records.length))
  | .error e => (.error e, w)

def failed (m : Model) (selector reason : String) (w : World) : World :=
  (w.log (.searchFailed m.collection selector reason)).measure (.failure m.collection)

def service : Service World := ⟨search, fetch, failed⟩

/-- Sends the document of a saved record to the backend of its model. -/
def index (m : Model) (record : SavedRecord) (w : World) : Except BackendError Unit × World :=
  match Document.ofRecord record with
  | .error e => (.error e, w)
  | .ok document =>
    (.ok (), (w.log (.indexing m.collection record.id)).update m fun s =>
      { s with backend := s.backend.index m.collection document })

def reportTaken (w : World) (kind : OperationKind) (m : Model) (name : String) (taken : Bool) :
    World :=
  if taken then w.log (.overwritten kind m.collection name) else w

def defineScope (m : Model) (name : String) (d : ScopeDefinition) (w : World) : World :=
  let (taken, registry) := (w.state m).registry.insertScope name d
  (w.update m fun s => { s with registry }).reportTaken .scope m name taken

def defineFinder (m : Model) (name : String) (f : Finder) (w : World) : World :=
  let (taken, registry) := (w.state m).registry.insertFinder name f
  (w.update m fun s => { s with registry }).reportTaken .finder m name taken

def defaultScope (m : Model) (part : ScopeBuilder) (w : World) : World :=
  let (changed, registry) := (w.state m).registry.composeDefault w.catalog part
  if changed then w.update m fun s => { s with registry }
  else w.log (.defaultUnchanged m.collection)

end World

namespace Model

def describe (m : Model) (r : Registry) : String :=
  "Searchable \x7b collection: " ++ Text.quoted m.collection ++ ", default_rows: " ++
    QueryOptions.describeOption (m.defaultRows.map fun n => toString n.toNat) ++ ", scopes: [" ++
    Text.quotedList r.scopeNames ++ "], default_scope: " ++
    (if r.hasDefaultScope then "true" else "false") ++ " \x7d"

def describeIndexer (m : Model) : String :=
  "SearchIndexer \x7b collection: " ++ Text.quoted m.collection ++ " \x7d"

end Model
end SearchCriteria
