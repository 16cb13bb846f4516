import SearchCriteria.Proofs.Cache.Builders
import SearchCriteria.Proofs.Options.Clauses

/-! The options of a chain. Some calls set the page, some add to the order, a merge may do the
first and puts its order in place of what is there, and the others only restrict. What a chain has
in the end is told from the calls that set something: of a page the last one, of the order
everything since the last merge that brings one. -/
namespace SearchCriteria

namespace Method

def rows? : Method → Option UInt64
  | limit n | rows n => some n
  | merge other => other.options.rows
  | _ => none

def start? : Method → Option UInt64
  | skip n | start n => some n
  | merge other => other.options.start
  | _ => none

def order? : Method → Option String
  | merge other => other.options.sort
  | _ => none

def clauses : Method → List String
  | sort spec | orderBy spec | order spec => spec.clauses
  | _ => []

def setsOption (m : Method) : Bool :=
  m.rows?.isSome || m.start?.isSome || m.order?.isSome || !m.clauses.isEmpty

def restricts : Method → Bool
  | filter _ | or _ | anyOf _ | between _ | lte _ | gte _ | lt _ | gt _ => true
  | _ => false

/-- What the order is made of after a call: an order that is brought comes in place of it all. -/
def extend (pieces : List String) (m : Method) : List String :=
  m.order?.elim (pieces ++ m.clauses) fun s => [s]

def pieces (ms : List Method) : List String := ms.foldl extend []

theorem not_setsOption_iff {m : Method} : m.setsOption = false ↔
    m.rows? = none ∧ m.start? = none ∧ m.order? = none ∧ m.clauses = [] := by
  simp [setsOption, and_assoc]

theorem pieces_concat (ms : List Method) (m : Method) :
    pieces (ms ++ [m]) = extend (pieces ms) m := by
  rw [pieces, List.foldl_append]
  rfl

theorem extend_of_order {m : Method} {s : String} (h : m.order? = some s) (pieces : List String) :
    extend pieces m = [s] := by
  rw [extend, h]
  rfl

theorem extend_of_no_order {m : Method} (h : m.order? = none) (pieces : List String) :
    extend pieces m = pieces ++ m.clauses := by
  rw [extend, h]
  rfl

theorem pieces_append {earlier later : List Method} (h : ∀ m ∈ later, m.order? = none) :
    pieces (earlier ++ later) = pieces earlier ++ later.flatMap clauses := by
  induction later using List.reverseRecOn with
  | nil => simp
  | append_singleton later m ih =>
    have hlater : ∀ m ∈ later, m.order? = none := fun n hn =>
      h n (List.mem_append_left [m] hn)
    have hm : m.order? = none := h m (by simp)
    rw [← List.append_assoc, pieces_concat, extend_of_no_order hm, ih hlater]
    simp

theorem pieces_of_no_order {ms : List Method} (h : ∀ m ∈ ms, m.order? = none) :
    pieces ms = ms.flatMap clauses := by
  have hall : pieces ([] ++ ms) = pieces [] ++ ms.flatMap clauses := pieces_append h
  exact hall

/-- An order that is brought is a piece even if its text is empty. -/
theorem pieces_eq_nil_iff {ms : List Method} :
    pieces ms = [] ↔ ∀ m ∈ ms, m.order? = none ∧ m.clauses = [] := by
  induction ms using List.reverseRecOn with
  | nil => simp [pieces]
  | append_singleton ms m ih =>
    rw [pieces_concat]
    cases hm : m.order? with
    | none => simp [extend_of_no_order hm, ih, hm, or_imp, forall_and, and_assoc]
    | some s => simp [extend_of_order hm, or_imp, forall_and, hm]

end Method

namespace QueryOptions

open Method

def setBy (o : QueryOptions) (m : Method) : QueryOptions where
  sort := m.order?.or (m.clauses.foldl pushSort o).sort
  rows := m.rows?.or o.rows
  start := m.start?.or o.start

theorem setBy_eq_self {m : Method} (h : m.setsOption = false) (o : QueryOptions) :
    o.setBy m = o := by
  obtain ⟨hrows, hstart, horder, hclauses⟩ := not_setsOption_iff.1 h
  simp [setBy, hrows, hstart, horder, hclauses]

theorem sort_setBy {o : QueryOptions} {pieces : List String} (h : o.sort = ordered pieces)
    (m : Method) : (o.setBy m).sort = ordered (extend pieces m) := by
  rw [setBy]
  cases horder : m.order? with
  | none => rw [extend_of_no_order horder, Option.none_or, foldl_pushSort_ordered h]
  | some s => rw [extend_of_order horder, Option.some_or, ordered_singleton]

theorem sort_foldl_setBy (ms : List Method) :
    (ms.foldl setBy {}).sort = ordered (pieces ms) := by
  induction ms using List.reverseRecOn with
  | nil => rfl
  | append_singleton ms m ih => rw [List.foldl_append, pieces_concat]; exact sort_setBy ih m

theorem page_foldl_setBy (ms : List Method) :
    (ms.foldl setBy {}).rows = (ms.filterMap rows?).getLast? ∧
      (ms.foldl setBy {}).start = (ms.filterMap start?).getLast? := by
  induction ms using List.reverseRecOn with
  | nil => exact ⟨rfl, rfl⟩
  | append_singleton ms m ih =>
    rw [List.foldl_append, List.foldl_cons, List.foldl_nil, setBy]
    simp only [List.filterMap_append, List.getLast?_append, ih]
    constructor
    · cases hm : m.rows? <;> simp [hm]
    · cases hm : m.start? <;> simp [hm]

theorem foldl_setBy_filter (o : QueryOptions) (ms : List Method) :
    (ms.filter setsOption).foldl setBy o = ms.foldl setBy o := by
  induction ms generalizing o with
  | nil => rfl
  | cons m ms ih =>
    cases hm : m.setsOption with
    | false => rw [List.filter_cons_of_neg (by simp [hm]), List.foldl_cons, setBy_eq_self hm, ih]
    | true => rw [List.filter_cons_of_pos hm, List.foldl_cons, List.foldl_cons, ih]

end QueryOptions

namespace SearchQuery

open Method

theorem options_invoke (q : SearchQuery) (m : Method) :
    (q.invoke m).options = q.options.setBy m := by
  cases m with
  | sort spec | orderBy spec | order spec =>
    obtain ⟨s, hs⟩ := QueryOptions.foldl_pushSort_eq q.options spec.clauses
    have hset : q.options.setBy (.sort spec) = { q.options with
        sort := (spec.clauses.foldl QueryOptions.pushSort q.options).sort } := rfl
    exact hs.trans (hset.trans (by rw [hs])).symm
  | _ => rfl

theorem options_invokeAll (q : SearchQuery) (ms : List Method) :
    (q.invokeAll ms).options = ms.foldl QueryOptions.setBy q.options := by
  induction ms generalizing q with
  | nil => rfl
  | cons m ms ih =>
    rw [List.foldl_cons, ← options_invoke, ← ih]
    rfl

theorem options_of_restricts {m : Method} (h : m.restricts = true) (q : SearchQuery) :
    (q.invoke m).options = q.options := by
  cases m <;> first | rfl | cases h

/-- Without an order that is brought the clauses of all calls are read back from the order. -/
theorem split_sort_invokeAll {ms : List Method} (horder : ∀ m ∈ ms, m.order? = none)
    (hclean : ∀ c ∈ ms.flatMap clauses, c ≠ "" ∧ c.contains ", " = false) :
    ((({} : SearchQuery).invokeAll ms).options.sort.elim [] fun s =>
      (s.split ", ").toList.map String.Slice.copy) = ms.flatMap clauses := by
  rw [options_invokeAll, QueryOptions.sort_foldl_setBy, pieces_of_no_order horder]
  by_cases hnone : ms.flatMap clauses = []
  · rw [hnone]
    rfl
  · rw [QueryOptions.ordered_eq_intercalate hnone fun c hc => (hclean c hc).1, Option.elim_some]
    exact QueryOptions.split_intercalate hnone fun c hc => (hclean c hc).2

/-- Page size and offset are what the last call sets that sets one. The order is the clauses in call
order, from the last order on that a merge brings in their place. -/
theorem options_of_calls (ms : List Method) :
    let o := (({} : SearchQuery).invokeAll ms).options
    (o.rows = (ms.filterMap rows?).getLast? ∧ (o.rows = none ↔ ∀ m ∈ ms, m.rows? = none)) ∧
    (o.start = (ms.filterMap start?).getLast? ∧ (o.start = none ↔ ∀ m ∈ ms, m.start? = none)) ∧
    (o.sort = none ↔ ∀ m ∈ ms, m.order? = none ∧ m.clauses = []) ∧
    -- The clauses of the whole chain, or from the last order on that a merge brought.
    ((∀ m ∈ ms, m.order? = none) → o.sort = QueryOptions.ordered (ms.flatMap clauses)) ∧
    (∀ earlier m s later, ms = earlier ++ m :: later → m.order? = some s →
      (∀ n ∈ later, n.order? = none) →
      o.sort = QueryOptions.ordered (s :: later.flatMap clauses)) ∧
    (∀ (q : SearchQuery) (m : Method), m.restricts = true → (q.invoke m).options = q.options) ∧
    (({} : SearchQuery).invokeAll (ms.filter setsOption)).options = o ∧
    -- Clauses that have no separator in them are read back from the order.
    ((∀ m ∈ ms, m.order? = none) →
      (∀ c ∈ ms.flatMap clauses, c ≠ "" ∧ c.contains ", " = false) →
      (o.sort.elim [] fun s => (s.split ", ").toList.map String.Slice.copy) =
        ms.flatMap clauses) ∧
    (∀ text, (SortSpec.raw text).clauses = [text]) ∧
    (∀ field direction, (SortSpec.named field direction).clauses =
      [field ++ " " ++ Text.lowercase direction]) ∧
    (∀ entries, (SortSpec.directed entries).clauses =
      entries.map fun e => e.1 ++ " " ++ e.2.keyword) := by
  intro o
  have hoptions : o = ms.foldl QueryOptions.setBy {} := options_invokeAll {} ms
  obtain ⟨hrows, hstart⟩ := QueryOptions.page_foldl_setBy ms
  have hsort := QueryOptions.sort_foldl_setBy ms
  rw [← hoptions] at hrows hstart hsort
  refine ⟨⟨hrows, ?_⟩, ⟨hstart, ?_⟩, ?_, fun horder => ?_, ?_, fun q m hm =>
    options_of_restricts hm q, ?_, split_sort_invokeAll, fun _ => rfl, fun _ _ => rfl,
    fun entries => ?_⟩
  · rw [hrows, List.getLast?_eq_none_iff, List.filterMap_eq_nil_iff]
  · rw [hstart, List.getLast?_eq_none_iff, List.filterMap_eq_nil_iff]
  · rw [hsort, QueryOptions.ordered_eq_none_iff, pieces_eq_nil_iff]
  · rw [hsort, pieces_of_no_order horder]
  · rintro earlier m s later hms hm hlater
    rw [hsort, hms, List.append_cons, pieces_append hlater, pieces_concat, extend_of_order hm]
    rfl
  · rw [hoptions, options_invokeAll, QueryOptions.foldl_setBy_filter]
  · rw [SortSpec.directed, SortSpec.clauses, List.map_map]
    rfl

example :
    let sorted := ({} : SearchQuery).invokeAll [.sort (.raw ""), .orderBy (.named "name" "ASC"),
      .limit 5, .order (.raw ""), .sort (.directed [("price", .desc), ("stock", .asc)])]
    let replacing : SearchQuery := { options := { sort := some "", start := some 10 } }
    sorted.options = { sort := some "name asc, , price desc, stock asc", rows := some 5 } ∧
      (sorted.invokeAll [.merge replacing, .sort (.raw "created desc"), .rows 7]).options =
        { sort := some "created desc", rows := some 7, start := some 10 } := by
  decide +kernel

end SearchQuery
end SearchCriteria
