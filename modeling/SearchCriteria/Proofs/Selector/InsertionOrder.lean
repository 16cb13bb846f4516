import Mathlib.Data.Finset.Card
import Mathlib.Data.List.Forall2
import SearchCriteria.NameTable
import SearchCriteria.Query.Writing

/-! Predicates as maps that keep the order of insertion. However a predicate is written, its fields
are the names that were given, each once and in the order in which they were first given, with the
values that were given last. Opening the ends of the values for a comparison keeps the names, and
what is compiled has one term for each of them. -/
namespace SearchCriteria

open NameTable

/-- The fields that are given in order, as the comparisons after them leave their values. -/
def Writing.given : Writing → List (String × Value)
  | empty => []
  | pair field value => [(field, value)]
  | collected entries => entries
  | array entries => entries.toList
  | literal entries => entries
  | insert before field value => before.given ++ [(field, value)]
  | adjust before c => before.given.map fun e => (e.1, c.adjust e.2)

def GivenBefore (given : List (String × Value)) (a b : String) : Prop :=
  (NameTable.names given).idxOf a < (NameTable.names given).idxOf b

/-- A text that joins one term for each of the names, in their order; the term of a name is made of
the value that was given for it last. -/
def HasTermForEach (names : List String) (term : String → Value → String)
    (given : List (String × Value)) (separator text : String) : Prop :=
  ∃ terms, text = separator.intercalate terms ∧
    List.Forall₂ (fun name t => ∃ value, last? name given = some value ∧ t = term name value)
      names terms

section GivenBefore

variable {given : List (String × Value)} {a b : String}

theorem GivenBefore.concat (h : GivenBefore given a b) (ha : a ∈ NameTable.names given)
    (hb : b ∈ NameTable.names given) (e : String × Value) : GivenBefore (given ++ [e]) a b := by
  rw [GivenBefore, names_append, List.idxOf_append_of_mem ha, List.idxOf_append_of_mem hb]
  exact h

theorem givenBefore_new (ha : a ∈ NameTable.names given) (hb : b ∉ NameTable.names given)
    (value : Value) : GivenBefore (given ++ [(b, value)]) a b := by
  have hlt := List.idxOf_lt_length_of_mem ha
  rw [GivenBefore, names_append, List.idxOf_append_of_mem ha, List.idxOf_append_of_notMem hb]
  omega

theorem givenBefore_map (f : Value → Value) :
    GivenBefore (given.map fun e => (e.1, f e.2)) = GivenBefore given := by
  funext a b
  rw [GivenBefore, names_map, GivenBefore]

end GivenBefore

namespace Predicate

theorem get?_eq (p : Predicate) (name : String) : p.get? name = NameTable.get? name p.fields := by
  obtain ⟨fields⟩ := p
  rw [get?]
  induction fields with
  | nil => rfl
  | cons e rest ih =>
    obtain ⟨key, value⟩ := e
    by_cases h : name = key
    · simp [NameTable.get?, h]
    · simpa [NameTable.get?, h, Ne.symm h] using ih

theorem mem_names_iff (p : Predicate) (name : String) :
    name ∈ p.names ↔ (p.get? name).isSome = true := by
  rw [get?_eq]
  exact NameTable.mem_names_iff name p.fields

/-- The names stand in the order in which they were first given, and reading a name gives what was
given for it last. -/
structure Follows (p : Predicate) (given : List (String × Value)) : Prop where
  order : p.names.Pairwise (GivenBefore given)
  get? : ∀ name, p.get? name = last? name given

namespace Follows

variable {p : Predicate} {given : List (String × Value)}

theorem mem_names_iff (h : p.Follows given) (name : String) :
    name ∈ p.names ↔ name ∈ NameTable.names given := by
  rw [p.mem_names_iff, h.get?, Option.isSome_iff_ne_none, ne_eq, last?_eq_none_iff,
    Classical.not_not]

theorem empty : ({} : Predicate).Follows [] := ⟨List.Pairwise.nil, fun _ => rfl⟩

theorem insert (h : p.Follows given) (field : String) (value : Value) :
    (p.insert field value).Follows (given ++ [(field, value)]) := by
  have hbefore : p.names.Pairwise (GivenBefore (given ++ [(field, value)])) :=
    h.order.imp_of_mem fun {a b} ha hb hab =>
      hab.concat ((h.mem_names_iff a).1 ha) ((h.mem_names_iff b).1 hb) (field, value)
  constructor
  · by_cases hfield : field ∈ p.names
    · rwa [names_insert_of_mem hfield]
    · have hnew : field ∉ NameTable.names given := fun hmem =>
        hfield ((h.mem_names_iff field).2 hmem)
      rw [names_insert_of_notMem hfield]
      refine List.pairwise_append.2 ⟨hbefore, List.pairwise_singleton _ _, fun a ha b hb => ?_⟩
      obtain rfl := List.mem_singleton.1 hb
      exact givenBefore_new ((h.mem_names_iff a).1 ha) hnew value
  · intro name
    rw [get?_insert, last?_concat, h.get?]

theorem adjust (h : p.Follows given) (c : Comparison) :
    (p.adjust c).Follows (given.map fun e => (e.1, c.adjust e.2)) := by
  constructor
  · rw [names_adjust, givenBefore_map]
    exact h.order
  · intro name
    rw [get?_adjust, h.get?, last?_map]

theorem insertAll (h : p.Follows given) (entries : List (String × Value)) :
    (entries.foldl (fun p e => p.insert e.1 e.2) p).Follows (given ++ entries) := by
  induction entries generalizing p given with
  | nil => simpa using h
  | cons e rest ih => simpa using ih (h.insert e.1 e.2)

theorem nodup (h : p.Follows given) : p.names.Nodup :=
  h.order.imp fun {a b} hlt heq => by
    subst heq
    exact Nat.lt_irrefl _ hlt

theorem mem_fields_iff (h : p.Follows given) (name : String) (value : Value) :
    (name, value) ∈ p.fields ↔ last? name given = some value := by
  rw [mem_iff_of_nodup h.nodup, ← get?_eq, h.get?]

theorem size_eq (h : p.Follows given) : p.size = (NameTable.names given).toFinset.card := by
  have hset : p.names.toFinset = (NameTable.names given).toFinset :=
    List.toFinset.ext h.mem_names_iff
  rw [← hset, List.toFinset_card_of_nodup h.nodup, names, List.length_map, size]

theorem hasTermForEach (h : p.Follows given) (term : String → Value → String)
    (separator : String) : HasTermForEach p.names term given separator
      (separator.intercalate (p.fields.map fun e => term e.1 e.2)) := by
  refine ⟨p.fields.map fun e => term e.1 e.2, rfl, ?_⟩
  rw [names, List.forall₂_map_left_iff, List.forall₂_map_right_iff, List.forall₂_same]
  exact fun e he => ⟨e.2, (h.mem_fields_iff e.1 e.2).1 he, rfl⟩

theorem unique {q : Predicate} (hp : p.Follows given) (hq : q.Follows given) : p = q := by
  obtain ⟨fields⟩ := p
  obtain ⟨others⟩ := q
  have hperm : fields.Perm others := by
    refine (List.perm_ext_iff_of_nodup (hp.nodup.of_map Prod.fst) (hq.nodup.of_map Prod.fst)).2 ?_
    intro e
    exact (hp.mem_fields_iff e.1 e.2).trans (hq.mem_fields_iff e.1 e.2).symm
  have horder := hp.order
  have horders := hq.order
  rw [names, List.pairwise_map] at horder horders
  have hfields : fields = others :=
    hperm.eq_of_pairwise (fun _ _ _ _ hlt hgt => absurd hgt (Nat.lt_asymm hlt)) horder horders
  rw [hfields]

end Follows
end Predicate

namespace Writing

/-- Whatever the way of writing, it gives its fields one after the other. -/
theorem follows (w : Writing) : w.predicate.Follows w.given := by
  have hempty : ({} : Predicate).Follows [] := Predicate.Follows.empty
  induction w with
  | empty => exact hempty
  | pair field value => exact hempty.insert field value
  | collected entries => exact hempty.insertAll entries
  | array entries => exact hempty.insertAll entries.toList
  | literal entries => exact hempty.insertAll entries
  | insert before field value ih => exact ih.insert field value
  | adjust before c ih => exact ih.adjust c

/-- A predicate has the names that were given, in the order in which they were first given and with
the values that were given last; its text has one term for each. -/
theorem insertion_ordered (w : Writing) :
    let p := w.predicate
    let given := w.given
    p.names.Nodup ∧
    (∀ name, name ∈ p.names ↔ name ∈ NameTable.names given) ∧
    p.names.Pairwise (GivenBefore given) ∧
    (∀ name value, (name, value) ∈ p.fields ↔ last? name given = some value) ∧
    (∀ name, p.get? name = last? name given) ∧
    p.size = (NameTable.names given).toFinset.card ∧
    p = Predicate.ofList given ∧
    (∀ name value, Predicate.pairTerm name value =
      match value with
      | .range low high => name ++ ":" ++ "[" ++ low.render ++ " TO " ++ high.render ++ "]"
      | scalar => name ++ ":" ++ scalar.render) ∧
    (∀ b name value, Predicate.boundedTerm b name value =
      match b, value with
      | .inclusive, .range low high =>
        name ++ ":" ++ "[" ++ low.render ++ " TO " ++ high.render ++ "]"
      | .exclusive, .range low high =>
        name ++ ":" ++ "\x7b" ++ low.render ++ " TO " ++ high.render ++ "\x7d"
      | _, scalar => name ++ ": " ++ scalar.render) ∧
    (∀ k : Connective,
      HasTermForEach p.names Predicate.pairTerm given k.separator (p.compilePairs k)) ∧
    (∀ b : Bounds, HasTermForEach p.names (Predicate.boundedTerm b) given
      Connective.and.separator (p.compileRanges b)) ∧
    ∀ c : Comparison,
      (p.adjust c).names = p.names ∧
      (p.adjust c).size = p.size ∧
      (∀ name, (p.adjust c).get? name = (last? name given).map c.adjust) ∧
      (∀ k : Connective,
        HasTermForEach p.names (fun name value => Predicate.pairTerm name (c.adjust value)) given
          k.separator ((p.adjust c).compilePairs k)) ∧
      ∀ b : Bounds,
        HasTermForEach p.names (fun name value => Predicate.boundedTerm b name (c.adjust value))
          given Connective.and.separator ((p.adjust c).compileRanges b) := by
  intro p given
  have h : p.Follows given := w.follows
  refine ⟨h.nodup, h.mem_names_iff, h.order, h.mem_fields_iff, h.get?, h.size_eq,
    h.unique (collected given).follows, fun name value => ?_, fun b name value => ?_,
    fun k => h.hasTermForEach _ _, fun b => h.hasTermForEach _ _, fun c => ?_⟩
  · cases value <;> rfl
  · cases b <;> cases value <;> rfl
  refine ⟨p.names_adjust c, p.size_adjust c, fun name => ?_, fun k => ?_, fun b => ?_⟩
  · rw [p.get?_adjust, h.get?]
  · rw [p.compilePairs_adjust]
    exact h.hasTermForEach _ _
  · rw [p.compileRanges_adjust]
    exact h.hasTermForEach _ _

/-- A name that is given again keeps its place, also after its value has been opened. -/
theorem insertion_ordered_again :
    let w : Writing := .insert (.adjust (.literal [("size", .int 3), ("age", .int 30)]) .atLeast)
      "size" (.text "XL")
    w.predicate.names = ["size", "age"] ∧ w.predicate.names.Nodup ∧ w.predicate.size = 2 ∧
    w.predicate.get? "size" = some (.text "XL") ∧ w.predicate.get? "shape" = none ∧
    w.predicate.compilePairs .or = "size:XL OR age:[30 TO 100000000000000000000]" ∧
    (w.predicate.adjust .below).compileRanges .exclusive =
      "size:\x7b* TO XL\x7d AND age:\x7b* TO 100000000000000000000\x7d" := by
  intro w
  obtain ⟨hnodup, -, -, -, hget, hsize, hwritten, -⟩ := insertion_ordered w
  refine ⟨?_, hnodup, hsize, hget "size", hget "shape", ?_, ?_⟩
  · rw [hwritten]
    decide +kernel
  · rw [hwritten]
    decide +kernel
  · rw [hwritten]
    decide +kernel

end Writing
end SearchCriteria
