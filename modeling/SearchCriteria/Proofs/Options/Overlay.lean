import SearchCriteria.Proofs.Cache.Requests
import SearchCriteria.Proofs.Scope.Defaults

/-! Merged options as layers. Each option is taken from the last layer that sets it, and the JSON
object of merged options is the object of the first with the entries of the others set on it, one
after the other. An option that is not set has no entry. -/
namespace SearchCriteria
namespace QueryOptions

def given? (o : QueryOptions) (name : String) : Option Json :=
  if name = "rows" then o.rows.map .count
  else if name = "sort" then o.sort.map .str
  else if name = "start" then o.start.map .count
  else none

def entries (o : QueryOptions) : NameTable Json :=
  (o.rows.map fun n => ("rows", Json.count n)).toList ++
    (o.sort.map fun s => ("sort", Json.str s)).toList ++
    (o.start.map fun n => ("start", Json.count n)).toList

theorem toJson_eq (o : QueryOptions) : o.toJson = .obj o.entries := rfl

theorem sorted_entries (o : QueryOptions) : o.entries.Sorted := by
  have hall : ["rows", "sort", "start"].Pairwise (· < ·) := by decide
  have hsub : (NameTable.names o.entries).Sublist ["rows", "sort", "start"] := by
    rcases o with ⟨_ | sort, _ | rows, _ | start⟩ <;> simp [entries, NameTable.names]
  exact hall.sublist hsub

theorem get?_entries (o : QueryOptions) (name : String) :
    NameTable.get? name o.entries = o.given? name := by
  by_cases hrows : name = "rows"
  · rcases o with ⟨_ | sort, _ | rows, _ | start⟩ <;>
      simp [entries, given?, NameTable.get?, hrows]
  by_cases hsort : name = "sort"
  · rcases o with ⟨_ | sort, _ | rows, _ | start⟩ <;>
      simp [entries, given?, NameTable.get?, hsort]
  · rcases o with ⟨_ | sort, _ | rows, _ | start⟩ <;>
      simp [entries, given?, NameTable.get?, hrows, hsort]

theorem given?_ne_null {o : QueryOptions} {name : String} {j : Json} (h : o.given? name = some j) :
    j ≠ .null := by
  rintro rfl
  unfold given? at h
  split_ifs at h <;> simp [Json.count] at h

theorem mem_entries_iff {o : QueryOptions} {name : String} {j : Json} :
    (name, j) ∈ o.entries ↔ o.given? name = some j := by
  rw [o.sorted_entries.mem_iff, get?_entries]

theorem ofJson?_toJson (o : QueryOptions) : ofJson? o.toJson = some o := by
  have hsort : entry? Json.str? (NameTable.get? "sort" o.entries) = some o.sort := by
    rw [get?_entries]
    cases hs : o.sort <;> simp [given?, hs, entry?, Json.str?]
  have hrows : entry? Json.count? (NameTable.get? "rows" o.entries) = some o.rows := by
    rw [get?_entries]
    cases hr : o.rows with
    | none => simp [given?, hr, entry?]
    | some n => simpa [given?, hr, entry?, Json.count] using Json.count?_count n
  have hstart : entry? Json.count? (NameTable.get? "start" o.entries) = some o.start := by
    rw [get?_entries]
    cases hs : o.start with
    | none => simp [given?, hs, entry?]
    | some n => simpa [given?, hs, entry?, Json.count] using Json.count?_count n
  rw [toJson_eq, ofJson?, hsort, hrows, hstart]
  rfl

/-! Laws of merging. -/

@[simp] theorem merge_empty (o : QueryOptions) : o.merge {} = o := by
  simp [merge]

theorem merge_assoc (a b c : QueryOptions) : (a.merge b).merge c = a.merge (b.merge c) := by
  simp [merge, Option.or_assoc]

theorem merge_merge_left (a b : QueryOptions) : (a.merge b).merge a = b.merge a := by
  rcases a with ⟨_ | sort, _ | rows, _ | start⟩ <;> simp [merge]

theorem given?_merge (a b : QueryOptions) (name : String) :
    (a.merge b).given? name = (b.given? name).or (a.given? name) := by
  unfold given?
  split_ifs <;> simp [Option.map_or]

theorem entries_merge (a b : QueryOptions) : (a.merge b).entries = a.entries.extend b.entries := by
  refine (sorted_entries _).ext (a.sorted_entries.extend b.entries) fun name => ?_
  rw [get?_entries, NameTable.get?_extend, NameTable.last?_eq_get? b.sorted_entries.nodup,
    get?_entries, get?_entries, given?_merge]

/-- Whatever is read from options by the rule of merging is, after many layers, what the last layer
says that says anything. -/
theorem read_foldl_merge {α : Type} (read : QueryOptions → Option α)
    (hread : ∀ a b, read (a.merge b) = (read b).or (read a)) (os : List QueryOptions)
    (o : QueryOptions) : read (os.foldl merge o) = (os.filterMap read).getLast?.or (read o) := by
  induction os using List.reverseRecOn with
  | nil => rfl
  | append_singleton os last ih =>
    rw [List.foldl_append, List.foldl_cons, List.foldl_nil, hread, ih, List.filterMap_append,
      List.getLast?_append, Option.or_assoc]
    cases hlast : read last <;> simp [hlast]

theorem entries_foldl_merge (os : List QueryOptions) (o : QueryOptions) :
    (os.foldl merge o).entries = os.foldl (fun t o => t.extend o.entries) o.entries := by
  induction os generalizing o with
  | nil => rfl
  | cons first os ih => rw [List.foldl_cons, List.foldl_cons, ih, entries_merge]

end QueryOptions

theorem ScopeBuilder.options_compose (catalog : Catalog) (parts : List ScopeBuilder) :
    ((compose catalog parts).getD {}).options =
      (parts.map fun p => (p.resolve catalog []).options).foldl QueryOptions.merge {} := by
  cases parts with
  | nil => rfl
  | cons part parts =>
    have hmerged := SearchQuery.options_foldl_merge
      ((part :: parts).map fun p => p.resolve catalog []) {}
    rw [List.foldl_map, List.map_map] at hmerged
    exact hmerged

/-- The page size of the model is the lowest layer. -/
theorem Criteria.effectiveOptions_eq (c : Criteria) :
    c.effectiveOptions = ({ rows := c.model.defaultRows } : QueryOptions).merge c.options := by
  simp [effectiveOptions, QueryOptions.merge]

/-- Of any number of layers each option is what the last one says that sets it, in memory, as JSON
and in what a backend gets above the page size of the model. -/
theorem options_overlay :
    (∀ a b c : QueryOptions, (a.merge b).merge c = a.merge (b.merge c)) ∧
    (∀ o : QueryOptions, ({} : QueryOptions).merge o = o ∧ o.merge {} = o ∧ o.merge o = o) ∧
    (∀ a b : QueryOptions, (a.merge b).merge a = b.merge a) ∧
    (∀ o : QueryOptions, QueryOptions.ofJson? o.toJson = some o) ∧
    (∀ a b : QueryOptions, ∃ below above,
      a.toJson = .obj below ∧ b.toJson = .obj above ∧
      (a.merge b).toJson = .obj (NameTable.extend below above) ∧
      ∀ name, NameTable.get? name (NameTable.extend below above) =
        (NameTable.get? name above).or (NameTable.get? name below)) ∧
    -- Any number of layers, the lowest first.
    (∀ os : List QueryOptions,
      let merged := os.foldl QueryOptions.merge {}
      merged.sort = (os.filterMap QueryOptions.sort).getLast? ∧
      merged.rows = (os.filterMap QueryOptions.rows).getLast? ∧
      merged.start = (os.filterMap QueryOptions.start).getLast? ∧
      merged.toJson = .obj (os.foldl (fun t o => NameTable.extend t o.entries) []) ∧
      ∀ name, NameTable.get? name merged.entries =
        (os.filterMap fun o => NameTable.get? name o.entries).getLast?) ∧
    (∀ (catalog : Catalog) (parts : List ScopeBuilder),
      ((ScopeBuilder.compose catalog parts).getD {}).options =
        (parts.map fun p => (p.resolve catalog []).options).foldl QueryOptions.merge {}) ∧
    (∀ (q : SearchQuery) (qs : List SearchQuery), (qs.foldl SearchQuery.merge q).options =
      (qs.map SearchQuery.options).foldl QueryOptions.merge q.options) ∧
    -- What a backend is sent by any read.
    ∀ (σ : Type) (s : Service σ) (st : σ) (c : Criteria) (kind : ReadKind),
      (c.read s.recorded ([], st) kind).state.1.EverySearch fun call =>
        call.options = ({ rows := c.model.defaultRows } : QueryOptions).merge c.options ∧
        ∃ fields, call.options.toJson = .obj fields ∧
          ∀ name j, (name, j) ∈ fields ↔ call.options.given? name = some j ∧ j ≠ .null := by
  refine ⟨QueryOptions.merge_assoc, fun o => ⟨o.empty_merge, o.merge_empty, o.merge_self⟩,
    QueryOptions.merge_merge_left, QueryOptions.ofJson?_toJson, fun a b => ?_, fun os => ?_,
    ScopeBuilder.options_compose, fun q qs => SearchQuery.options_foldl_merge qs q,
    fun σ s st c kind => ?_⟩
  · refine ⟨a.entries, b.entries, rfl, rfl, ?_, fun name => ?_⟩
    · rw [QueryOptions.toJson_eq, QueryOptions.entries_merge]
    · rw [NameTable.get?_extend, NameTable.last?_eq_get? b.sorted_entries.nodup]
  · intro merged
    refine ⟨?_, ?_, ?_, ?_, fun name => ?_⟩
    · simpa using QueryOptions.read_foldl_merge QueryOptions.sort QueryOptions.merge_sort os {}
    · simpa using QueryOptions.read_foldl_merge QueryOptions.rows QueryOptions.merge_rows os {}
    · simpa using QueryOptions.read_foldl_merge QueryOptions.start QueryOptions.merge_start os {}
    · rw [QueryOptions.toJson_eq, QueryOptions.entries_foldl_merge]
      rfl
    · have hread := QueryOptions.read_foldl_merge (fun o => o.given? name)
        (fun a b => QueryOptions.given?_merge a b name) os {}
      simp only [QueryOptions.get?_entries]
      simpa [QueryOptions.given?] using hread
  · refine History.EverySearch.read kind (fun _ => ?_) History.EverySearch.nil
    refine ⟨c.effectiveOptions_eq, c.searchCall.options.entries, rfl, fun name j => ?_⟩
    rw [QueryOptions.mem_entries_iff]
    exact (and_iff_left_of_imp QueryOptions.given?_ne_null).symm

example :
    let below : QueryOptions := { sort := some "name asc", start := some 20 }
    let above : QueryOptions := { sort := some "", rows := none }
    let c : Criteria :=
      { model := { id := 0, collection := "people", defaultRows := some 5 },
        query := ({ options := below } : SearchQuery).merge { options := above } }
    c.effectiveOptions.toJson.text = "\x7b\"rows\":5,\"sort\":\"\",\"start\":20\x7d" := by
  decide +kernel

end SearchCriteria
