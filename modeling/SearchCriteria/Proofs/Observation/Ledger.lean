import SearchCriteria.Proofs.Observation.Desk

/-! What journal and metrics say of a run. Each request enters the journal and is measured, and so
is each failure that is reported; nothing else is. After any run over any number of criteria the
counts are those of the requests that were made, of their answers, and of the failures that the
callers were told of. -/
namespace SearchCriteria

structure Ledger where
  journal : List JournalEntry := []
  metrics : Metrics := []

structure Observed (σ : Type) where
  state : σ
  ledger : Ledger

namespace Ledger

def log (l : Ledger) (e : JournalEntry) : Ledger := { l with journal := l.journal ++ [e] }

def measure (l : Ledger) (x : Measurement) : Ledger := { l with metrics := l.metrics ++ [x] }

end Ledger

/-- The outside with a ledger: a request is entered when it begins and measured when it ends; of
fetches only those are measured that found their records. -/
def Service.observed {σ : Type} (s : Service σ) : Service (Observed σ) where
  search m selector options o :=
    let (answer, after) := s.search m selector options o.state
    (answer, ⟨after, (o.ledger.log (.searching m.collection selector options)).measure
      (.search m.collection answer.isOk 0)⟩)
  fetch m ids o :=
    let (answer, after) := s.fetch m ids o.state
    let ledger := o.ledger.log (.fetching m.collection ids.length)
    match answer with
    | .ok records => (.ok records, ⟨after, ledger.measure (.fetch m.collection records.length)⟩)
    | .error e => (.error e, ⟨after, ledger⟩)
  failed m selector reason o :=
    ⟨s.failed m selector reason o.state,
      (o.ledger.log (.searchFailed m.collection selector reason)).measure (.failure m.collection)⟩

namespace Event

def entry : Event → JournalEntry
  | searched call _ => .searching call.collection call.selector call.options
  | fetched collection ids _ => .fetching collection ids.length
  | failed collection selector reason => .searchFailed collection selector reason

def measurements : Event → List Measurement
  | searched call answer => [.search call.collection answer.isOk 0]
  | fetched collection _ (.ok records) => [.fetch collection records.length]
  | fetched _ _ (.error _) => []
  | failed collection _ _ => [.failure collection]

def found? (collection : String) : Event → Option Nat
  | fetched asked _ (.ok records) => if asked = collection then some records.length else none
  | _ => none

end Event

def History.metrics (h : History) : Metrics := h.reverse.flatMap Event.measurements

theorem History.metrics_cons (e : Event) (h : History) :
    metrics (e :: h) = h.metrics ++ e.measurements := by
  simp [metrics]

def Ledger.after (l : Ledger) (h : History) : Ledger :=
  ⟨l.journal ++ h.reverse.map Event.entry, l.metrics ++ h.metrics⟩

theorem Ledger.after_nil (l : Ledger) : l.after [] = l := by
  simp [after, History.metrics]

theorem Ledger.after_cons (l : Ledger) (e : Event) (h : History) :
    l.after (e :: h) =
      ⟨(l.after h).journal ++ [e.entry], (l.after h).metrics ++ e.measurements⟩ := by
  simp [after, History.metrics_cons]

namespace Service

variable {σ : Type}

/-- The ledger is that of the events. -/
theorem observed_keeps (s : Service σ) (l : Ledger) :
    s.recorded.observed.Keeps fun o => o.ledger = l.after o.state.1 where
  search m selector options o h := by
    rcases hs : s.search m selector options o.state.2 with ⟨answer, after⟩
    simp [observed, recorded, hs, Ledger.after_cons, ← h, Ledger.log, Ledger.measure, Event.entry,
      Event.measurements]
  fetch m ids o h := by
    rcases hs : s.fetch m ids o.state.2 with ⟨e | records, after⟩ <;>
      simp [observed, recorded, hs, Ledger.after_cons, ← h, Ledger.log, Ledger.measure,
        Event.entry, Event.measurements]
  failed m selector reason o h := by
    simp [observed, recorded, Ledger.after_cons, ← h, Ledger.log, Ledger.measure, Event.entry,
      Event.measurements]

theorem observed_mirrors (s : Service σ) : s.observed.Mirrors s Observed.state where
  search m selector options o := rfl
  fetch m ids o := by
    rcases hs : s.fetch m ids o.state with ⟨e | records, after⟩ <;> simp [observed, hs]
  failed m selector reason o := rfl

end Service

namespace Metrics

theorem durations_append (m m' : Metrics) (collection : String) (ok : Bool) :
    durations (m ++ m') collection ok = m.durations collection ok ++ m'.durations collection ok :=
  List.filterMap_append

theorem failures_append (m m' : Metrics) (collection : String) :
    failures (m ++ m') collection = m.failures collection + m'.failures collection :=
  List.countP_append

theorem fetches_append (m m' : Metrics) (collection : String) :
    fetches (m ++ m') collection = m.fetches collection ++ m'.fetches collection :=
  List.filterMap_append

theorem total_append (ns ns' : List Nat) : total (ns ++ ns') = total ns + total ns' := by
  induction ns with
  | nil => exact (Nat.zero_add _).symm
  | cons n ns ih =>
    have hcons : ∀ ms, total (n :: ms) = n + total ms := fun _ => rfl
    rw [List.cons_append, hcons, hcons, ih, Nat.add_assoc]

theorem count_histogram (ds : List Nat) : (histogram ds).count = ds.length := by
  simp [histogram]

end Metrics

namespace Event

open Metrics

theorem length_durations (e : Event) (collection : String) (ok : Bool) :
    (durations e.measurements collection ok).length = (e.searchedOn collection ok).toNat := by
  cases e with
  | searched call answer =>
    by_cases h : call.collection = collection ∧ answer.isOk = ok
    · simp [measurements, durations, searchedOn, h]
    · have hother :
          (decide (call.collection = collection) && decide (answer.isOk = ok)) = false := by
        simpa using h
      simp [measurements, durations, searchedOn, h, hother]
  | fetched asked ids answer => cases answer <;> rfl
  | failed asked selector reason => rfl

theorem failures_measurements (e : Event) (collection : String) :
    failures e.measurements collection =
      e.fault?.toList.countP fun fault => fault.collection = collection := by
  cases e with
  | searched call answer => rfl
  | fetched asked ids answer => cases answer <;> rfl
  | failed asked selector reason => simp [measurements, failures, fault?, List.countP_cons]

theorem fetches_measurements (e : Event) (collection : String) :
    fetches e.measurements collection = (e.found? collection).toList := by
  cases e with
  | searched call answer => rfl
  | fetched asked ids answer =>
    cases answer with
    | error e => rfl
    | ok records => by_cases h : asked = collection <;> simp [measurements, fetches, found?, h]
  | failed asked selector reason => rfl

end Event

namespace History

open Metrics

variable (h : History) (collection : String)

theorem length_durations_metrics (ok : Bool) :
    (h.metrics.durations collection ok).length = h.countP (Event.searchedOn collection ok) := by
  induction h with
  | nil => rfl
  | cons e h ih =>
    rw [metrics_cons, durations_append, List.length_append, ih, e.length_durations, countP_cons]

theorem failures_metrics :
    h.metrics.failures collection = h.faults.countP fun fault => fault.collection = collection := by
  induction h with
  | nil => rfl
  | cons e h ih =>
    rw [metrics_cons, failures_append, ih, e.failures_measurements, faults_cons,
      List.countP_append]

theorem fetches_metrics :
    h.metrics.fetches collection = h.reverse.filterMap (Event.found? collection) := by
  induction h with
  | nil => rfl
  | cons e h ih =>
    rw [metrics_cons, fetches_append, ih, e.fetches_measurements, List.reverse_cons,
      List.filterMap_append]
    cases hfound : e.found? collection <;> simp [hfound]

end History

/-- The ledger before and after a run, the history of its requests, and the reports of its reads fit
together. -/
structure Accounts (before after : Ledger) (h : History) (reports : List Report) : Prop where
  queries : ∀ k ok, (after.metrics.durations k ok).length =
    (before.metrics.durations k ok).length + h.countP (Event.searchedOn k ok)
  timings : ∀ k ok, (Metrics.histogram (after.metrics.durations k ok)).count =
    (Metrics.histogram (before.metrics.durations k ok)).count + h.countP (Event.searchedOn k ok)
  /-- Failures are counted as often as callers are told of one. -/
  failures : ∀ k, after.metrics.failures k =
    before.metrics.failures k + reports.countP (Report.failedOn k)
  /-- Each has one cause: a search or a fetch was answered with an error, or an answer was not
  understood. -/
  causes : ∀ k, reports.countP (Report.failedOn k) =
    h.countP (Event.searchedOn k false) + reports.countP (Report.rejectedOn k) +
      h.countP (Event.fetchedOn k false)
  records : ∀ k, Metrics.total (after.metrics.fetches k) =
    Metrics.total (before.metrics.fetches k) +
      Metrics.total (h.reverse.filterMap (Event.found? k))
  journal : after.journal = before.journal ++ h.reverse.map Event.entry
  faults : h.reverse.filterMap Event.fault? = reports.filterMap Report.fault?

theorem Report.countP_fault? (reports : List Report) (collection : String) :
    ((reports.filterMap Report.fault?).countP fun fault => fault.collection = collection) =
      reports.countP (Report.failedOn collection) := by
  rw [List.countP_filterMap]
  congr 1
  funext r
  cases hr : r.fault? with
  | none => simp [failedOn, hr]
  | some fault =>
    have hcollection : fault.collection = r.collection := Fault.collection_eq hr
    simp [failedOn, hr, hcollection]

theorem Tallied.accounts {h : History} {reports : List Report} (htally : Tallied h reports)
    (l : Ledger) : Accounts l (l.after h) h reports where
  queries k ok := by
    rw [Ledger.after, Metrics.durations_append, List.length_append, h.length_durations_metrics]
  timings k ok := by
    rw [Metrics.count_histogram, Metrics.count_histogram, Ledger.after, Metrics.durations_append,
      List.length_append, h.length_durations_metrics]
  failures k := by
    rw [Ledger.after, Metrics.failures_append, h.failures_metrics, htally.faults,
      Report.countP_fault?]
  causes k := by
    have hk := htally.causes k
    rw [History.lapses] at hk
    omega
  records k := by
    rw [Ledger.after, Metrics.fetches_append, Metrics.total_append, h.fetches_metrics]
  journal := rfl
  faults := htally.faults

def collaborators : Service (List ModelState) where
  search m selector options models :=
    let (answer, backend) := ((models[m.id]?).getD { model := m }).backend.search
      ⟨m.collection, selector, options⟩
    (answer, models.modify m.id fun s => { s with backend })
  fetch m ids models :=
    let (answer, store) := ((models[m.id]?).getD { model := m }).store.fetch ids
    (answer, models.modify m.id fun s => { s with store })
  failed _ _ _ models := models

namespace World

def ledger (w : World) : Ledger := ⟨w.journal, w.metrics⟩

def ofObserved (o : Observed (List ModelState)) : World :=
  ⟨o.state, o.ledger.journal, o.ledger.metrics⟩

/-- A world is its collaborators with a ledger. -/
theorem collaborators_mirrors : collaborators.observed.Mirrors service ofObserved where
  search m selector options o := rfl
  fetch m ids o := by
    rcases hs : ((o.state[m.id]?).getD { model := m }).store.fetch ids with ⟨e | records, store⟩ <;>
      simp [service, fetch, Service.observed, collaborators, ofObserved, log, measure, update,
        state, Ledger.log, Ledger.measure, hs]
  failed m selector reason o := rfl

end World

namespace Service

variable {σ τ : Type}

theorem Mirrors.observed {s : Service σ} {t : Service τ} {f : σ → τ} (h : s.Mirrors t f) :
    s.observed.Mirrors t.observed fun o => ⟨f o.state, o.ledger⟩ where
  search m selector options o := by
    simp only [Service.observed, h.search]
  fetch m ids o := by
    rcases hs : s.fetch m ids o.state with ⟨e | records, after⟩ <;>
      simp [Service.observed, hs, h.fetch_eq hs]
  failed m selector reason o := by
    simp only [Service.observed, h.failed]

end Service

namespace Desk

variable {σ : Type}

/-- The ledger beside an outside accounts for the history of its requests. -/
theorem accounts_run (s : Service σ) (st : σ) (ledger : Ledger)
    (criteria : Nat → Option Criteria) (uses : List Use) :
    let d := Desk.run s.recorded.observed ⟨criteria, ⟨([], st), ledger⟩, []⟩ uses
    Accounts ledger d.state.ledger d.state.state.1 d.reports := by
  intro d
  have hledger : d.state.ledger = ledger.after d.state.state.1 :=
    run_keep (P := fun (o : Observed (History × σ)) _ => o.ledger = ledger.after o.state.1)
      (fun c kind _ _ h => (s.observed_keeps ledger).read c kind h) ledger.after_nil.symm uses
  have hasked : d.mapState Observed.state = Desk.run s.recorded ⟨criteria, ([], st), []⟩ uses :=
    s.recorded.observed_mirrors.run _ uses
  have htally : Tallied d.state.state.1 d.reports := by
    have hrun := Tallied.nil.run s (d := ⟨criteria, ([], st), []⟩) uses
    rwa [← hasked] at hrun
  rw [hledger]
  exact htally.accounts ledger

/-- Journal and metrics account exactly for the searches and fetches of any number of criteria, for
their answers, and for the failures that callers are told of. Keeping them changes nothing that is
found. -/
theorem run_accounts (s : Service σ) (st : σ) (ledger : Ledger) (w : World)
    (criteria : Nat → Option Criteria) (uses : List Use) :
    let d := Desk.run s.recorded.observed ⟨criteria, ⟨([], st), ledger⟩, []⟩ uses
    let world := Desk.run World.service ⟨criteria, w, []⟩ uses
    let asked := Desk.run collaborators.recorded ⟨criteria, ([], w.models), []⟩ uses
    Accounts ledger d.state.ledger d.state.state.1 d.reports ∧
    d.mapState (fun o => o.state.2) = Desk.run s ⟨criteria, st, []⟩ uses ∧
    Accounts w.ledger world.state.ledger asked.state.1 world.reports ∧
    world.mapState World.models = asked.mapState Prod.snd ∧
    ∀ (c : Criteria) (kind : ReadKind),
      (c.read s.recorded.observed d.state kind).result = .error .emptySelector →
        (c.read s.recorded.observed d.state kind).state = d.state := by
  intro d world asked
  -- One run with history and ledger, of which both the world and its collaborators are views.
  let e :=
    Desk.run collaborators.recorded.observed ⟨criteria, ⟨([], w.models), w.ledger⟩, []⟩ uses
  have hworld : e.mapState (fun o => World.ofObserved ⟨o.state.2, o.ledger⟩) = world :=
    (collaborators.recorded_mirrors.observed.trans World.collaborators_mirrors).run _ uses
  have hasked : e.mapState Observed.state = asked :=
    collaborators.recorded.observed_mirrors.run _ uses
  refine ⟨accounts_run s st ledger criteria uses, ?_, ?_, ?_, fun c kind => ?_⟩
  · exact (s.recorded.observed_mirrors.trans s.recorded_mirrors).run _ uses
  · rw [← hworld, ← hasked]
    exact accounts_run collaborators w.models w.ledger criteria uses
  · rw [← hworld, ← hasked]
    rfl
  · exact c.refusedAt_read s.recorded.observed d.state kind

def unrestricted : Criteria := { model := { id := 0, collection := "people" } }

/-- A backend that fails, then gives no answer that can be understood, then one match; and a store
that fails once. -/
def flaky : World where
  models := [{
    model := unrestricted.model
    backend := { queued := [.error (.transport "timeout"), .ok .null, .ok (responseWithIds ["1"])] }
    store := { records := [("1", "Joe")], failure := some "disk gone" } }]

def places : Nat → Option Criteria
  | 0 => some unrestricted
  | _ => some (unrestricted.apply (.filter (.raw "name:Joe")))

def retries : List Use :=
  [.read 0 .total, .read 1 .total, .read 1 .ids, .read 1 .documents, .take 1, .take 1]

theorem run_accounts_flaky :
    let d :=
      Desk.run collaborators.recorded.observed ⟨places, ⟨([], flaky.models), {}⟩, []⟩ retries
    let world := Desk.run World.service ⟨places, flaky, []⟩ retries
    (unrestricted.read collaborators.recorded.observed d.state .hits).result =
      .error .emptySelector ∧
    (unrestricted.read collaborators.recorded.observed d.state .hits).state = d.state ∧
    world.reports.length = 5 ∧ world.state.ledger.metrics.failures "people" = 3 ∧
    (world.state.ledger.metrics.durations "people" false).length = 1 ∧
    (world.state.ledger.metrics.durations "people" true).length = 3 := by
  intro d world
  obtain ⟨-, -, hworld, -, hrefused⟩ :=
    run_accounts collaborators flaky.models {} flaky places retries
  have hresult : (unrestricted.read collaborators.recorded.observed d.state .hits).result =
      .error .emptySelector := by rfl
  have hfailed : world.reports.countP (Report.failedOn "people") = 3 := by rfl
  refine ⟨hresult, hrefused unrestricted .hits hresult, by rfl, ?_, ?_, ?_⟩
  · exact (hworld.failures "people").trans (congrArg _ hfailed)
  · exact (hworld.queries "people" false).trans (by rfl)
  · exact (hworld.queries "people" true).trans (by rfl)

end Desk
end SearchCriteria
