import SearchCriteria.Proofs.Selector.Grammar
import SearchCriteria.Query.Predicate

/-! Predicates that are made of words. Numbers, truth values and open ends are words by
themselves, so only field names and texts have to be; every field then compiles to one
well-formed term. -/
namespace SearchCriteria

open Text

theorem isWord_ofList {cs : List Char} (hne : cs ≠ []) (hall : ∀ c ∈ cs, isWordChar c = true) :
    IsWord (String.ofList cs) := by
  refine ⟨fun hempty => hne ?_, ?_⟩
  · simpa using congrArg String.toList hempty
  · rw [String.toList_ofList, List.all_eq_true]
    exact hall

theorem isWordChar_of_isDigit {c : Char} (h : c.isDigit = true) : isWordChar c = true := by
  have hbounds : 48 ≤ c.toNat ∧ c.toNat ≤ 57 := by
    simpa [Char.isDigit, UInt32.le_iff_toNat_le] using h
  have hblank : isBlankChar c = false := by
    simp [isBlankChar, inRanges, blankRanges]
    omega
  have hmarks : ['(', ')', '[', ']', '\x7b', '\x7d', ':'].all (fun d => !d.isDigit) = true := by
    decide
  rw [isWordChar, hblank, Bool.not_false, Bool.true_and, Bool.not_eq_true', List.contains_eq_mem,
    decide_eq_false_iff_not]
  intro hmem
  have hmark := List.all_eq_true.1 hmarks c hmem
  rw [h] at hmark
  cases hmark

theorem IsWord.append {s t : String} (hs : IsWord s) (ht : IsWord t) : IsWord (s ++ t) := by
  refine ⟨fun hempty => hs.1 (String.append_eq_empty_iff.1 hempty).1, ?_⟩
  rw [String.toList_append, List.all_append, hs.2, ht.2]
  rfl

theorem isWordChar_toDigits (n : Nat) : ∀ c ∈ Nat.toDigits 10 n, isWordChar c = true :=
  fun _ hc => isWordChar_of_isDigit (Nat.isDigit_of_mem_toDigits (by decide) (by decide) hc)

theorem isWord_repr (n : Nat) : IsWord n.repr := by
  rw [Nat.repr_eq_ofList_toDigits]
  exact isWord_ofList Nat.toDigits_ne_nil (isWordChar_toDigits n)

theorem isWord_int (n : Int) : IsWord (toString n) := by
  have hminus : IsWord "-" := by decide
  rw [Int.toString_eq_repr, Int.repr_eq_if]
  split
  · exact isWord_repr _
  · exact hminus.append (isWord_repr _)

namespace Double

/-- The three layouts of query text: below one, whole, and with digits after the point. -/
theorem layout_queryStyle (ds : List Char) (e : Int) :
    queryStyle.layout ds e =
      if e < 0 then ['0', '.'] ++ List.replicate (e.natAbs - 1) '0' ++ ds
      else if ds.length ≤ e.toNat + 1 then ds ++ List.replicate (e.toNat + 1 - ds.length) '0'
      else ds.take (e.toNat + 1) ++ ['.'] ++ ds.drop (e.toNat + 1) := by
  simp [DecimalStyle.layout, queryStyle]

theorem isWordChar_layout {ds : List Char} (hds : ∀ c ∈ ds, isWordChar c = true) (e : Int) :
    ∀ c ∈ queryStyle.layout ds e, isWordChar c = true := by
  have hzeros : ∀ n, ∀ c ∈ List.replicate n '0', isWordChar c = true := by
    intro n c hc
    rw [List.eq_of_mem_replicate hc]
    decide
  have hpoint : ∀ c ∈ ['.'], isWordChar c = true := List.all_eq_true.1 (by decide)
  have hzeroPoint : ∀ c ∈ ['0', '.'], isWordChar c = true := List.all_eq_true.1 (by decide)
  rw [layout_queryStyle]
  split
  · exact List.forall_mem_append.2
      ⟨List.forall_mem_append.2 ⟨hzeroPoint, hzeros _⟩, hds⟩
  · split
    · exact List.forall_mem_append.2 ⟨hds, hzeros _⟩
    · exact List.forall_mem_append.2
        ⟨List.forall_mem_append.2 ⟨fun c hc => hds c (List.mem_of_mem_take hc), hpoint⟩,
          fun c hc => hds c (List.mem_of_mem_drop hc)⟩

theorem layout_ne_nil (ds : List Char) (e : Int) : queryStyle.layout ds e ≠ [] := by
  rw [layout_queryStyle]
  split
  · simp
  · split
    · intro hnil
      have hlength := congrArg List.length hnil
      simp only [List.length_append, List.length_replicate, List.length_nil] at hlength
      omega
    · simp

theorem isWord_text (x : Double) : IsWord x.text := by
  unfold text DecimalStyle.render
  split
  · decide
  · have hbody : (if x.isInfinite then "inf".toList else queryStyle.renderMagnitude x) ≠ [] ∧
        ∀ c ∈ (if x.isInfinite then "inf".toList else queryStyle.renderMagnitude x),
          isWordChar c = true := by
      split
      · exact ⟨by decide, List.all_eq_true.1 (by decide)⟩
      · unfold DecimalStyle.renderMagnitude
        split
        · exact ⟨by decide, List.all_eq_true.1 (by decide)⟩
        · refine ⟨layout_ne_nil _ _, isWordChar_layout (fun c hc => ?_) _⟩
          have hdrop := List.mem_reverse.1 hc
          have hmem := (List.dropWhile_sublist _).mem hdrop
          exact isWordChar_toDigits _ c (List.mem_reverse.1 hmem)
    dsimp only
    split
    · refine isWord_ofList (by simp) (List.forall_mem_cons.2 ⟨by decide, hbody.2⟩)
    · exact isWord_ofList hbody.1 hbody.2

end Double

namespace Value

/-- A value that is no range; as text it is a word. -/
def IsPlainScalar : Value → Prop
  | text s => IsWord s
  | range _ _ => False
  | _ => True

def IsPlain : Value → Prop
  | range low high => low.IsPlainScalar ∧ high.IsPlainScalar
  | v => v.IsPlainScalar

instance : (v : Value) → Decidable v.IsPlainScalar
  | text s => inferInstanceAs (Decidable (IsWord s))
  | range _ _ => isFalse id
  | int _ | float _ | bool _ | wildcard | max | min => isTrue trivial

instance : (v : Value) → Decidable v.IsPlain
  | range low high => inferInstanceAs (Decidable (low.IsPlainScalar ∧ high.IsPlainScalar))
  | text s => inferInstanceAs (Decidable (IsWord s))
  | int _ | float _ | bool _ | wildcard | max | min => isTrue trivial

theorem IsPlainScalar.isWord {v : Value} (h : v.IsPlainScalar) : IsWord v.render := by
  cases v with
  | text s => exact h
  | int n => exact isWord_int n.toInt
  | float x => exact x.isWord_text
  | bool b => cases b <;> decide
  | wildcard => decide
  | max => decide
  | min => decide
  | range low high => exact absurd h id

def lowerEnd : Value → Value
  | range low _ => low
  | v => v

def upperEnd : Value → Value
  | range _ high => high
  | v => v

theorem IsPlain.lowerEnd {v : Value} (h : v.IsPlain) : v.lowerEnd.IsPlainScalar := by
  cases v with
  | range low high => exact h.1
  | _ => exact h

theorem IsPlain.upperEnd {v : Value} (h : v.IsPlain) : v.upperEnd.IsPlainScalar := by
  cases v with
  | range low high => exact h.2
  | _ => exact h

end Value

/-! The terms of a predicate. -/

namespace Term

/-- The term that asks for a value, or for a value between the ends of a range. -/
def equality (field : String) : Value → Term
  | .range low high => .range .inclusive field low.render high.render
  | v => .equal field v.render

def compared : Comparison → String → Value → Term
  | .between, field, .range low high => .range .inclusive field low.render high.render
  | .between, field, v => .spaced field v.render
  | .atMost, field, v => .range .inclusive field Value.unboundedMin v.upperEnd.render
  | .atLeast, field, v => .range .inclusive field v.lowerEnd.render Value.unboundedMax
  | .below, field, v => .range .exclusive field "*" v.upperEnd.render
  | .above, field, v => .range .exclusive field v.lowerEnd.render "*"

theorem text_equality (field : String) (v : Value) :
    (equality field v).text = Predicate.pairTerm field v := by
  cases v <;> rfl

theorem text_compared (c : Comparison) (field : String) (v : Value) :
    (compared c field v).text = Predicate.boundedTerm c.bounds field (c.adjust v) := by
  cases c <;> cases v <;> rfl

theorem wellFormed_equality {field : String} {v : Value} (hfield : IsWord field)
    (hv : v.IsPlain) : (equality field v).WellFormed := by
  cases v with
  | range low high => exact ⟨hfield, hv.1.isWord, hv.2.isWord⟩
  | _ => exact ⟨hfield, Value.IsPlainScalar.isWord hv⟩

theorem wellFormed_compared (c : Comparison) {field : String} {v : Value} (hfield : IsWord field)
    (hv : v.IsPlain) : (compared c field v).WellFormed := by
  have hmin : IsWord Value.unboundedMin := by decide
  have hmax : IsWord Value.unboundedMax := by decide
  have hopen : IsWord "*" := by decide
  cases c with
  | between =>
    cases v with
    | range low high => exact ⟨hfield, hv.1.isWord, hv.2.isWord⟩
    | _ => exact ⟨hfield, Value.IsPlainScalar.isWord hv⟩
  | atMost => exact ⟨hfield, hmin, hv.upperEnd.isWord⟩
  | atLeast => exact ⟨hfield, hv.lowerEnd.isWord, hmax⟩
  | below => exact ⟨hfield, hopen, hv.upperEnd.isWord⟩
  | above => exact ⟨hfield, hv.lowerEnd.isWord, hopen⟩

end Term

namespace Predicate

/-- Fields and texts are words, and the ends of ranges are scalars. -/
def IsPlain (p : Predicate) : Prop := ∀ e ∈ p.fields, IsWord e.1 ∧ e.2.IsPlain

instance (p : Predicate) : Decidable p.IsPlain :=
  inferInstanceAs (Decidable (∀ e ∈ p.fields, IsWord e.1 ∧ e.2.IsPlain))

def equalities (p : Predicate) : List Term := p.fields.map fun e => .equality e.1 e.2

def comparisons (c : Comparison) (p : Predicate) : List Term :=
  p.fields.map fun e => .compared c e.1 e.2

end Predicate

end SearchCriteria
