import SearchCriteria.NameTable
import SearchCriteria.Number.Double

/-! Metrics: measurements in the order in which they were taken, and the families of samples
in which they are exported. A family is there as soon as one measurement belongs to it. It has
one sample for each of its label sets, up to a limit; what is measured under further ones goes
to one sample without labels. -/
namespace SearchCriteria

inductive Measurement
  | search (collection : String) (ok : Bool) (milliseconds : Nat)
  | failure (collection : String)
  | fetch (collection : String) (records : Nat)
  deriving DecidableEq, Inhabited

abbrev Metrics := List Measurement

/-- Durations in seconds: how many were at most each bound, how many there were, their sum. -/
structure Histogram where
  buckets : List (Nat × Nat)
  count : Nat
  sum : Double
  deriving DecidableEq, Inhabited

inductive SampleValue
  | counter (value : Double)
  | histogram (h : Histogram)
  deriving DecidableEq, Inhabited

structure Sample where
  labels : List (String × String)
  value : SampleValue
  deriving DecidableEq, Inhabited

structure MetricFamily where
  name : String
  help : String
  samples : List Sample
  deriving DecidableEq, Inhabited

namespace Metrics

def bounds : List Nat := [0, 5, 10, 25, 50, 75, 100, 250, 500, 750, 1000, 2500, 5000, 7500, 10000]

def durations (m : Metrics) (collection : String) (ok : Bool) : List Nat :=
  m.filterMap fun
    | .search c k ms => if c = collection && k = ok then some ms else none
    | _ => none

def failures (m : Metrics) (collection : String) : Nat :=
  m.countP fun
    | .failure c => c = collection
    | _ => false

def fetches (m : Metrics) (collection : String) : List Nat :=
  m.filterMap fun
    | .fetch c n => if c = collection then some n else none
    | _ => none

def collectionOf : Measurement → String
  | .search c _ _ => c
  | .failure c => c
  | .fetch c _ => c

def collections (m : Metrics) : List String :=
  (NameTable.ofList (m.map fun x => (collectionOf x, ()))).names

def seconds (milliseconds : Nat) : Double :=
  (Double.ofNat (milliseconds / 1000)).addMagnitudes
    (.ofRatio false (milliseconds % 1000 * 1000000) 1000000000)

def histogram (durations : List Nat) : Histogram :=
  let times := durations.map seconds
  { buckets := bounds.map fun b => (b, times.countP fun t => t.atMost b)
    count := times.length
    sum := times.foldl Double.addMagnitudes (.zero false) }

/-- A total of 64 bits, as far as a double holds it. -/
def exported (n : Nat) : Double := Double.ofNat (n % UInt64.size)

def labelLimit : Nat := 2000

/-- The measurements whose key is one of the first to appear, and those with a later key. -/
def splitAtLimit {κ : Type} [BEq κ] (key : Measurement → Option κ) (m : Metrics) :
    Metrics × Metrics :=
  let first := (m.filterMap key).eraseDups.take labelLimit
  (m.filter fun x => (key x).any fun k => first.contains k,
    m.filter fun x => (key x).any fun k => !first.contains k)

def sharedSample (value : Metrics → SampleValue) (m : Metrics) : List Sample :=
  if m.isEmpty then [] else [⟨[], value m⟩]

def searchKey? : Measurement → Option (String × Bool)
  | .search c ok _ => some (c, ok)
  | _ => none

def failureKey? : Measurement → Option String
  | .failure c => some c
  | _ => none

def fetchKey? : Measurement → Option String
  | .fetch c _ => some c
  | _ => none

def allDurations (m : Metrics) : List Nat :=
  m.filterMap fun
    | .search _ _ ms => some ms
    | _ => none

def allFetches (m : Metrics) : List Nat :=
  m.filterMap fun
    | .fetch _ n => some n
    | _ => none

def statuses : List (String × Bool) := [("error", false), ("ok", true)]

def searchSamples (m : Metrics) (value : List Nat → SampleValue) : List Sample :=
  let (own, shared) := m.splitAtLimit searchKey?
  sharedSample (fun m => value m.allDurations) shared ++
    own.collections.flatMap fun c =>
      statuses.filterMap fun (status, ok) =>
        match own.durations c ok with
        | [] => none
        | ds => some ⟨[("collection", c), ("status", status)], value ds⟩

def failureSamples (m : Metrics) : List Sample :=
  let (own, shared) := m.splitAtLimit failureKey?
  sharedSample (fun m => .counter (exported m.length)) shared ++
    own.collections.map fun c => ⟨[("collection", c)], .counter (exported (own.failures c))⟩

def total (ns : List Nat) : Nat := ns.foldr (· + ·) 0

def fetchSamples (m : Metrics) : List Sample :=
  let (own, shared) := m.splitAtLimit fetchKey?
  sharedSample (fun m => .counter (exported (total m.allFetches))) shared ++
    own.collections.map fun c =>
      ⟨[("collection", c)], .counter (exported (total (own.fetches c)))⟩

def families (m : Metrics) : List MetricFamily :=
  [⟨"lifeguard_search_failures_total_total",
      "Searches that failed and cleared the criteria cache", m.failureSamples⟩,
    ⟨"lifeguard_search_fetches_total_total",
      "Records materialised from the document store", m.fetchSamples⟩,
    ⟨"lifeguard_search_queries_total_total", "Total backend searches issued",
      m.searchSamples fun ds => .counter (exported ds.length)⟩,
    ⟨"lifeguard_search_query_duration_seconds", "Duration of backend searches",
      m.searchSamples fun ds => .histogram (histogram ds)⟩].filter fun f => !f.samples.isEmpty

/-- The lines of a sample in the text format: a bucket each, the open one, sum and count. -/
def lineCount : SampleValue → Nat
  | .counter _ => 1
  | .histogram h => h.buckets.length + 3

def encodedLines (m : Metrics) : Nat :=
  total (m.families.flatMap fun f => f.samples.map fun s => lineCount s.value)

def weight : SampleValue → Nat
  | .counter value => value.toCount.toNat
  | .histogram h => h.count

def sampleName (family : String) (labels : List (String × String)) : String :=
  family ++ "\x7b" ++ ",".intercalate (labels.map fun l => l.1 ++ "=" ++ l.2) ++ "\x7d"

def totals (m : Metrics) : List (String × Nat) :=
  m.families.flatMap fun f =>
    (f.samples.map fun s => (sampleName f.name s.labels, weight s.value)).filter fun e => e.2 ≠ 0

example : (histogram [500, 5125]).sum = .ofRatio false 45 8 := by decide +kernel
example : (histogram [0, 5000]).buckets.take 3 = [(0, 1), (5, 2), (10, 2)] := by decide +kernel
example : encodedLines [.search "a" true 500, .failure "a"] = 20 := by decide +kernel

end Metrics
end SearchCriteria
