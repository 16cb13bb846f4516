import SearchCriteria.Proofs.Selector.Fragments
import SearchCriteria.Proofs.Selector.Plain

/-! Field names and texts stand in a selector as they are. What a predicate compiles to is woven
from them and from text without parentheses, so that the depth of a selector is theirs; if each of
them is balanced, so is the selector, and none of them closes or opens a restriction. Nothing is
escaped: a text that is not balanced can close the restriction that it stands in. -/
namespace SearchCriteria

open Text

/-- The characters are the given texts in this order, between characters that are no parentheses. -/
inductive Woven : List String → List Char → Prop
  | flat {cs : List Char} (h : ∀ c ∈ cs, tilt c = 0) : Woven [] cs
  | text (s : String) : Woven [s] s.toList
  | append {us vs : List String} {xs ys : List Char} (hx : Woven us xs) (hy : Woven vs ys) :
      Woven (us ++ vs) (xs ++ ys)

namespace Woven

variable {us : List String} {cs : List Char}

theorem netDepth_eq (h : Woven us cs) : netDepth cs = SearchQuery.netDepths us := by
  induction h with
  | flat h => exact netDepth_of_flat h
  | text s => exact (Int.add_zero _).symm
  | append hx hy ihx ihy => rw [netDepth_append, SearchQuery.netDepths_append, ihx, ihy]

theorem balanced (h : Woven us cs) (hus : ∀ s ∈ us, Balanced s.toList) : Balanced cs := by
  induction h with
  | flat h => exact .of_flat h
  | text s => exact hus s (List.mem_singleton_self s)
  | append hx hy ihx ihy =>
    obtain ⟨hus, hvs⟩ := List.forall_mem_append.1 hus
    exact (ihx hus).append (ihy hvs)

theorem mark {s : String} (h : s.toList.all (fun c => tilt c == 0) = true) : Woven [] s.toList :=
  .flat fun c hc => eq_of_beq (List.all_eq_true.1 h c hc)

theorem of_isWord {s : String} (h : IsWord s) : Woven [] s.toList := by
  refine .flat fun c hc => ?_
  have hword : isWordChar c = true := List.all_eq_true.1 h.2 c hc
  have hopening : c ≠ '(' := by rintro rfl; revert hword; decide
  have hclosing : c ≠ ')' := by rintro rfl; revert hword; decide
  simp [tilt, hopening, hclosing]

theorem intercalate {α : Type} {texts : α → List String} {render : α → String} {sep : String}
    (hsep : Woven [] sep.toList) {items : List α}
    (h : ∀ a ∈ items, Woven (texts a) (render a).toList) :
    Woven (items.flatMap texts) (sep.intercalate (items.map render)).toList := by
  induction items with
  | nil => exact .flat (by simp)
  | cons a items ih =>
    obtain ⟨ha, hrest⟩ := List.forall_mem_cons.1 h
    cases items with
    | nil => simpa using ha
    | cons b items =>
      have hmore := (ha.append hsep).append (ih hrest)
      simpa [List.append_assoc] using hmore

end Woven

def Value.texts : Value → List String
  | text s => [s]
  | range low high => low.texts ++ high.texts
  | int _ | float _ | bool _ | wildcard | max | min => []

theorem Value.woven_render (v : Value) : Woven v.texts v.render.toList := by
  induction v with
  | text s => exact .text s
  | range low high ihlow ihhigh =>
    have hjoint : Woven [] " TO ".toList := .mark (by decide)
    have hrange := (ihlow.append hjoint).append ihhigh
    simpa [texts] using hrange
  | int n => exact .of_isWord (isWord_int n.toInt)
  | float x => exact .of_isWord x.isWord_text
  | bool b => exact .of_isWord (IsPlainScalar.isWord (v := .bool b) trivial)
  | wildcard => exact .of_isWord (by decide)
  | max => exact .of_isWord (by decide)
  | min => exact .of_isWord (by decide)

namespace Predicate

def texts (p : Predicate) : List String := p.fields.flatMap fun e => e.1 :: e.2.texts

theorem woven_rangeTerm (field : String) (low high : Value) (b : Bounds) :
    Woven (field :: (low.texts ++ high.texts)) (rangeTerm field low high b).toList := by
  have hopening : Woven [] (":" ++ b.opening).toList := .mark (by cases b <;> decide)
  have hclosing : Woven [] b.closing.toList := .mark (by cases b <;> decide)
  have hrange := (Value.range low high).woven_render
  have hterm := (((Woven.text field).append hopening).append hrange).append hclosing
  simpa [rangeTerm, Value.texts] using hterm

theorem woven_scalarTerm {mark : String} (hmark : Woven [] mark.toList) (field : String)
    (v : Value) : Woven (field :: v.texts) (field ++ mark ++ v.render).toList := by
  have hterm := ((Woven.text field).append hmark).append v.woven_render
  simpa using hterm

theorem woven_pairTerm (field : String) (v : Value) :
    Woven (field :: v.texts) (pairTerm field v).toList := by
  cases v with
  | range low high => exact woven_rangeTerm field low high .inclusive
  | _ => exact woven_scalarTerm (.mark (by decide)) field _

theorem woven_boundedTerm (b : Bounds) (field : String) (v : Value) :
    Woven (field :: v.texts) (boundedTerm b field v).toList := by
  cases v with
  | range low high => exact woven_rangeTerm field low high b
  | _ => exact woven_scalarTerm (.mark (by decide)) field _

theorem woven_compilePairs (p : Predicate) (c : Connective) :
    Woven p.texts (p.compilePairs c).toList :=
  .intercalate (.flat (SearchQuery.flat_separator c)) fun e _ => woven_pairTerm e.1 e.2

theorem woven_compileRanges (p : Predicate) (b : Bounds) :
    Woven p.texts (p.compileRanges b).toList :=
  .intercalate (.flat (SearchQuery.flat_separator .and)) fun e _ => woven_boundedTerm b e.1 e.2

end Predicate

/-- A restriction by predicates, without query text of its own. -/
inductive Restriction
  | filter (p : Predicate)
  | anyOf (ps : List Predicate)
  | compare (c : Comparison) (ps : List Predicate)

namespace Restriction

def operation : Restriction → Operation
  | filter p => .filter (.fields p)
  | anyOf ps => .anyOf ps
  | compare c ps => .compare c ps

/-- The predicates that are compiled; those of a comparison have its free ends opened. -/
def predicates : Restriction → List Predicate
  | filter p => [p]
  | anyOf ps => ps
  | compare c ps => ps.map (Predicate.adjust c)

def compile : Restriction → Predicate → String
  | filter _, p => p.compilePairs .and
  | anyOf _, p => p.compilePairs .or
  | compare c _, p => p.compileRanges c.bounds

def texts (r : Restriction) : List String := r.predicates.flatMap Predicate.texts

theorem parts_operation (r : Restriction) : r.operation.parts = r.predicates.map r.compile := by
  cases r with
  | filter p => rfl
  | anyOf ps => rfl
  | compare c ps => simp [operation, Operation.parts, predicates, compile, Function.comp_def]

theorem woven_compile (r : Restriction) (p : Predicate) : Woven p.texts (r.compile p).toList := by
  cases r with
  | filter q => exact p.woven_compilePairs .and
  | anyOf ps => exact p.woven_compilePairs .or
  | compare c ps => exact p.woven_compileRanges c.bounds

theorem netDepths_parts (r : Restriction) :
    SearchQuery.netDepths r.operation.parts = SearchQuery.netDepths r.texts := by
  rw [parts_operation, texts]
  induction r.predicates with
  | nil => rfl
  | cons p ps ih =>
    rw [List.map_cons, SearchQuery.netDepths_cons, ih, (r.woven_compile p).netDepth_eq,
      List.flatMap_cons, SearchQuery.netDepths_append]

theorem balanced_parts {r : Restriction} (h : ∀ s ∈ r.texts, Balanced s.toList) :
    ∀ f ∈ r.operation.parts, Balanced f.toList := by
  rw [parts_operation]
  intro f hf
  obtain ⟨p, hp, rfl⟩ := List.mem_map.1 hf
  exact (r.woven_compile p).balanced fun s hs => h s (List.mem_flatMap.2 ⟨p, hp, hs⟩)

theorem balanced_fragment {r : Restriction} (h : ∀ s ∈ r.texts, Balanced s.toList) :
    Balanced r.operation.fragment.toList := by
  have hsolid : ∀ f ∈ SearchQuery.solid r.operation.parts, Balanced f.toList :=
    fun f hf => balanced_parts h f (List.mem_filter.1 hf).1
  cases r with
  | filter p => exact balanced_parts h _ (List.mem_singleton_self _)
  | anyOf ps =>
    rw [Operation.fragment_of_groupedBy rfl]
    exact SearchQuery.balanced_joined .or hsolid
  | compare c ps =>
    rw [Operation.fragment_of_groupedBy rfl]
    exact SearchQuery.balanced_joined .and hsolid

theorem balanced_texts {rs : List Restriction} {r : Restriction} (hr : r ∈ rs)
    (h : ∀ s ∈ rs.flatMap texts, Balanced s.toList) : ∀ s ∈ r.texts, Balanced s.toList :=
  fun s hs => h s (List.mem_flatMap.2 ⟨r, hr, hs⟩)

theorem netDepths_contributions (rs : List Restriction) :
    SearchQuery.netDepths (SearchQuery.contributions (rs.map operation)) =
      SearchQuery.netDepths (rs.flatMap texts) := by
  rw [SearchQuery.netDepths_contributions, SearchQuery.netDepths_solid]
  induction rs with
  | nil => rfl
  | cons r rs ih =>
    rw [List.map_cons, List.flatMap_cons, List.flatMap_cons, SearchQuery.netDepths_append, ih,
      netDepths_parts, SearchQuery.netDepths_append]

def query (rs : List Restriction) : SearchQuery := ({} : SearchQuery).applyAll (rs.map operation)

end Restriction

namespace SearchQuery

/-- Only field names and texts can open or close more than there is to it. If each is balanced, so
is the selector, and its restrictions are read back. -/
theorem balanced_restrictions (rs : List Restriction) :
    let selector := (Restriction.query rs).selector
    let ops := rs.map Restriction.operation
    let texts := rs.flatMap Restriction.texts
    netDepth selector.toList = netDepths texts ∧
    ((∀ s ∈ texts, Balanced s.toList) →
      Balanced selector.toList ∧
      fragments? .and selector = some (contributions ops) ∧
      ∀ op ∈ ops, ∀ c, op.groupedBy = some c →
        fragments? c op.fragment = some (solid op.parts)) := by
  intro selector ops texts
  have hselector : selector = joined .and (contributions ops) := selector_applyAll ops
  refine ⟨?_, fun htexts => ?_⟩
  · rw [hselector, netDepth_joined]
    exact Restriction.netDepths_contributions rs
  · have hfragments : ∀ f ∈ contributions ops, Balanced f.toList := by
      intro f hf
      obtain ⟨op, hop, rfl⟩ := List.mem_map.1 (List.mem_filter.1 hf).1
      obtain ⟨r, hr, rfl⟩ := List.mem_map.1 hop
      exact Restriction.balanced_fragment (Restriction.balanced_texts hr htexts)
    rw [hselector]
    refine ⟨balanced_joined .and hfragments, fragments?_joined .and hfragments, ?_⟩
    intro op hop c hgroup
    obtain ⟨r, hr, rfl⟩ := List.mem_map.1 hop
    have hparts := Restriction.balanced_parts (Restriction.balanced_texts hr htexts)
    rw [Operation.fragment_of_groupedBy hgroup]
    exact fragments?_joined c fun f hf => hparts f (List.mem_filter.1 hf).1

def lookalikes : List Restriction :=
  [.filter ⟨[("name", .text "(Joe) OR (b:2)")]⟩,
   .anyOf [⟨[("tags", .text " AND ")]⟩, ⟨[]⟩, ⟨[("f()", .bool true)]⟩],
   .compare .atMost [⟨[("x", .range (.text ")") (.text "()"))]⟩]]

theorem balanced_restrictions_lookalikes :
    let selector := (Restriction.query lookalikes).selector
    (∀ s ∈ lookalikes.flatMap Restriction.texts, Balanced s.toList) ∧
    selector = "(name:(Joe) OR (b:2)) AND ((tags: AND ) OR (f():true)) AND " ++
      "((x:[-100000000000000000000 TO ()]))" ∧
    Balanced selector.toList ∧
    fragments? .and selector = some ["name:(Joe) OR (b:2)",
      "(tags: AND ) OR (f():true)", "(x:[-100000000000000000000 TO ()])"] := by
  intro selector
  have htexts : ∀ s ∈ lookalikes.flatMap Restriction.texts, Balanced s.toList := by decide
  have hfragments : contributions (lookalikes.map Restriction.operation) = ["name:(Joe) OR (b:2)",
      "(tags: AND ) OR (f():true)", "(x:[-100000000000000000000 TO ()])"] := by decide +kernel
  obtain ⟨hbalanced, hread, -⟩ := (balanced_restrictions lookalikes).2 htexts
  rw [hfragments] at hread
  exact ⟨htexts, by decide +kernel, hbalanced, hread⟩

/-- A value that ends its restriction early: the selector closes more than it opens, or has a
restriction more than was asked for, joined by an operator of the value. -/
theorem value_closes_restriction :
    let closing : List Restriction := [.filter ⟨[("name", .text "x)")]⟩]
    let reopening : List Restriction := [.filter ⟨[("name", .text "x) OR (secret:1")]⟩]
    (Restriction.query closing).selector = "(name:x))" ∧
    ¬ Balanced (Restriction.query closing).selector.toList ∧
    fragments? .or (Restriction.query reopening).selector = some ["name:x", "secret:1"] := by
  decide +kernel

end SearchQuery
end SearchCriteria
