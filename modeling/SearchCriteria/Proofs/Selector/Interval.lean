import Mathlib.Data.List.Forall2
import SearchCriteria.Proofs.Number.Numeral
import SearchCriteria.Proofs.Selector.Meaning

/-! Comparisons as sets of integers. A range restriction is read back from its text as one interval
for each field: its ends are decimal numerals or stars, and square brackets include them where
braces do not. The interval of a comparison with a number of 64 bits holds exactly those integers,
as far as 64 bits reach with a sign or without, for which the comparison is true. -/
namespace SearchCriteria

open Text

def isBracket (c : Char) : Bool := ['[', ']', '\x7b', '\x7d'].contains c

/-- The integers between two ends; an end that is absent is open. -/
structure Interval where
  bounds : Bounds
  low : Option Int
  high : Option Int
  deriving DecidableEq

namespace Interval

/-- An open end excludes nothing; the others belong to the interval if its bounds are inclusive. -/
def Contains (i : Interval) (x : Int) : Prop :=
  match i.bounds with
  | .inclusive => (∀ n ∈ i.low, n ≤ x) ∧ ∀ n ∈ i.high, x ≤ n
  | .exclusive => (∀ n ∈ i.low, n < x) ∧ ∀ n ∈ i.high, x < n

instance (x : Int) : (i : Interval) → Decidable (i.Contains x)
  | ⟨.inclusive, low, high⟩ =>
    inferInstanceAs (Decidable ((∀ n ∈ low, n ≤ x) ∧ ∀ n ∈ high, x ≤ n))
  | ⟨.exclusive, low, high⟩ =>
    inferInstanceAs (Decidable ((∀ n ∈ low, n < x) ∧ ∀ n ∈ high, x < n))

/-- An end as it stands in a term: a star is open, and anything else is a decimal numeral. -/
def readEnd? (s : String) : Option (Option Int) :=
  if s = "*" then some none else (Decimal.readInteger? s.toList).map some

def ofTerm? : Term → Option (String × Interval)
  | .range b field low high => do
    let low ← readEnd? low
    let high ← readEnd? high
    return (field, ⟨b, low, high⟩)
  | .equal .. => none
  | .spaced .. => none

end Interval

/-- Reads a range; its field is what stands in front of the first bracket, less the colon. -/
def readRangeTerm? (cs : List Char) : Option (Term × List Char) :=
  let front := cs.takeWhile fun c => !isBracket c
  let field := String.ofList front.dropLast
  if front.getLast? = some ':' then
    match cs.dropWhile fun c => !isBracket c with
    | '[' :: cs => readRange? .inclusive field cs
    | '\x7b' :: cs => readRange? .exclusive field cs
    | _ => none
  else none

def readRangeTerms? : Nat → List Char → Option (List Term)
  | 0, _ => none
  | fuel + 1, cs =>
    match readRangeTerm? cs with
    | none => none
    | some (t, rest) =>
      if rest.isEmpty then some [t]
      else
        (dropWord? Connective.and.separator.toList rest).bind fun cs =>
          (readRangeTerms? fuel cs).map (t :: ·)

/-- The intervals of a range restriction, each with its field. -/
def Interval.ofText? (s : String) : Option (List (String × Interval)) :=
  if s = "" then some []
  else (readRangeTerms? s.length s.toList).bind fun ts => ts.mapM ofTerm?

/-! Numbers of 64 bits as bounds. -/

inductive WholeNumber
  | signed (n : Int64)
  | unsigned (n : UInt64)
  deriving DecidableEq

namespace WholeNumber

def value : WholeNumber → Value
  | signed n => .int n
  | unsigned n => .ofUInt64 n

def toInt : WholeNumber → Int
  | signed n => n.toInt
  | unsigned n => n.toNat

end WholeNumber

/-- What a field is compared with: a number, or a range of which one end counts. -/
inductive Limit
  | number (n : WholeNumber)
  | range (low high : WholeNumber)
  deriving DecidableEq

namespace Limit

def value : Limit → Value
  | number n => n.value
  | range low high => .range low.value high.value

def lower : Limit → WholeNumber
  | number n => n
  | range low _ => low

def upper : Limit → WholeNumber
  | number n => n
  | range _ high => high

end Limit

namespace Comparison

def Holds : Comparison → Limit → Int → Prop
  | between, l, x => l.lower.toInt ≤ x ∧ x ≤ l.upper.toInt
  | atMost, l, x => x ≤ l.upper.toInt
  | atLeast, l, x => l.lower.toInt ≤ x
  | below, l, x => x < l.upper.toInt
  | above, l, x => l.lower.toInt < x

instance (l : Limit) (x : Int) : (c : Comparison) → Decidable (c.Holds l x)
  | between => inferInstanceAs (Decidable (l.lower.toInt ≤ x ∧ x ≤ l.upper.toInt))
  | atMost => inferInstanceAs (Decidable (x ≤ l.upper.toInt))
  | atLeast => inferInstanceAs (Decidable (l.lower.toInt ≤ x))
  | below => inferInstanceAs (Decidable (x < l.upper.toInt))
  | above => inferInstanceAs (Decidable (l.lower.toInt < x))

/-- The interval that a comparison asks for; an end beyond all numbers of 64 bits stands for none
where the bounds are inclusive. -/
def interval : Comparison → Limit → Interval
  | between, l => ⟨.inclusive, some l.lower.toInt, some l.upper.toInt⟩
  | atMost, l => ⟨.inclusive, some (-100000000000000000000), some l.upper.toInt⟩
  | atLeast, l => ⟨.inclusive, some l.lower.toInt, some 100000000000000000000⟩
  | below, l => ⟨.exclusive, none, some l.upper.toInt⟩
  | above, l => ⟨.exclusive, some l.lower.toInt, none⟩

theorem contains_interval {c : Comparison} {l : Limit} {x : Int}
    (hlow : Int64.minValue.toInt ≤ x) (hhigh : x < UInt64.size) :
    (c.interval l).Contains x ↔ c.Holds l x := by
  have hmin : Int64.minValue.toInt = -9223372036854775808 := by decide
  have hsize : (UInt64.size : Int) = 18446744073709551616 := by decide
  cases c <;> simp [interval, Interval.Contains, Holds] <;> omega

end Comparison

theorem WholeNumber.render_value (n : WholeNumber) : n.value.render = toString n.toInt := by
  cases n with
  | signed n => rfl
  | unsigned n =>
    rw [value, Value.ofUInt64]
    split
    · next h =>
      have hmax : Int64.maxValue.toInt = 9223372036854775807 := by decide
      have hmin : Int64.minValue.toInt = -9223372036854775808 := by decide
      have hfits : (Int64.ofInt n.toNat).toInt = n.toNat := by
        apply Int64.toInt_ofInt_of_le
        · omega
        · omega
      rw [Value.render, hfits]
      rfl
    · rfl

namespace Interval

theorem readEnd?_toString (n : Int) : readEnd? (toString n) = some (some n) := by
  have hread := readInteger?_toString n
  have hstar : toString n ≠ "*" := by
    intro h
    rw [h] at hread
    cases hread
  rw [readEnd?, if_neg hstar, hread]
  rfl

theorem readEnd?_value (n : WholeNumber) : readEnd? n.value.render = some (some n.toInt) := by
  rw [n.render_value, readEnd?_toString]

end Interval

namespace Term

/-- A range whose field has no bracket and whose ends are words. -/
def IsRange : Term → Prop
  | range _ field low high => (∀ c ∈ field.toList, isBracket c = false) ∧ IsWord low ∧ IsWord high
  | equal .. => False
  | spaced .. => False

end Term

theorem readRangeTerm?_append {t : Term} (ht : t.IsRange) (rest : List Char) :
    readRangeTerm? (t.text.toList ++ rest) = some (t, rest) := by
  cases t with
  | equal field value => exact absurd ht id
  | spaced field value => exact absurd ht id
  | range b field low high =>
  obtain ⟨hfield, hlow, hhigh⟩ := ht
  have hfront : ∀ c ∈ field.toList ++ [':'], (!isBracket c) = true := by
    intro c hc
    rcases List.mem_append.1 hc with hmem | hmem
    · rw [hfield c hmem]
      rfl
    · rw [List.mem_singleton.1 hmem]
      rfl
  have hopening : ∃ d, b.opening.toList = [d] ∧ (!isBracket d) = false := by
    cases b <;> exact ⟨_, rfl, by decide⟩
  obtain ⟨d, hd, hbracket⟩ := hopening
  have htext : (Term.range b field low high).text.toList ++ rest =
      (field.toList ++ [':']) ++ (d :: (low.toList ++ (" TO ".toList ++
        (high.toList ++ (b.closing.toList ++ rest))))) := by
    simp [Term.text, hd]
  have hlast : (field.toList ++ [':']).getLast? = some ':' := by simp
  have hinit : String.ofList (field.toList ++ [':']).dropLast = field := by simp
  rw [htext, readRangeTerm?, List.takeWhile_append_of_pos hfront,
    List.dropWhile_append_of_pos hfront, List.takeWhile_cons, List.dropWhile_cons, hbracket]
  simp only [Bool.false_eq_true, if_false, List.append_nil, hlast, hinit, if_true]
  cases b with
  | inclusive =>
    obtain rfl : '[' = d := List.singleton_inj.1 hd
    exact readRange?_append hlow hhigh rest
  | exclusive =>
    obtain rfl : '\x7b' = d := List.singleton_inj.1 hd
    exact readRange?_append hlow hhigh rest

theorem Term.IsRange.length_pos {t : Term} (ht : t.IsRange) : 0 < t.text.length := by
  cases t with
  | equal field value => exact absurd ht id
  | spaced field value => exact absurd ht id
  | range b field low high =>
    have hcolon : ":".length = 1 := rfl
    simp only [Term.text, String.length_append]
    omega

/-- Ranges are read back from their text, in order. -/
theorem readRangeTerms?_intercalate {t : Term} {ts : List Term} (h : ∀ u ∈ t :: ts, u.IsRange)
    {fuel : Nat}
    (hfuel : (Connective.and.separator.intercalate ((t :: ts).map Term.text)).length ≤ fuel) :
    readRangeTerms? fuel
      (Connective.and.separator.intercalate ((t :: ts).map Term.text)).toList = some (t :: ts) := by
  induction ts generalizing t fuel with
  | nil =>
    have ht : t.IsRange := h t (by simp)
    have hread := readRangeTerm?_append ht []
    have hpos := ht.length_pos
    rw [List.append_nil] at hread
    rw [List.map_singleton, String.intercalate_singleton] at hfuel ⊢
    obtain ⟨fuel, rfl⟩ : ∃ n, fuel = n + 1 := Nat.exists_eq_add_one.2 (by omega)
    rw [readRangeTerms?, hread]
    rfl
  | cons u ts ih =>
    obtain ⟨ht, hrest⟩ := List.forall_mem_cons.1 h
    have htext : Connective.and.separator.intercalate ((t :: u :: ts).map Term.text) =
        t.text ++ (Connective.and.separator ++
          Connective.and.separator.intercalate ((u :: ts).map Term.text)) := by
      simp [String.append_assoc]
    have hlater : ∀ n,
        (Connective.and.separator.intercalate ((u :: ts).map Term.text)).length ≤ n →
          readRangeTerms? n (Connective.and.separator.intercalate
            ((u :: ts).map Term.text)).toList = some (u :: ts) :=
      fun n hn => ih hrest hn
    rw [htext] at hfuel ⊢
    generalize Connective.and.separator.intercalate ((u :: ts).map Term.text) = later
      at hlater hfuel ⊢
    have hread := readRangeTerm?_append ht (Connective.and.separator ++ later).toList
    have hpos := ht.length_pos
    rw [String.length_append, String.length_append] at hfuel
    obtain ⟨fuel, rfl⟩ : ∃ n, fuel = n + 1 := Nat.exists_eq_add_one.2 (by omega)
    have hmore : readRangeTerms? fuel later.toList = some (u :: ts) := hlater fuel (by omega)
    have hgoes : (Connective.and.separator ++ later).toList.isEmpty = false := by
      rw [String.toList_append]
      rfl
    rw [String.toList_append, readRangeTerms?, hread]
    simp only [hgoes, Bool.false_eq_true, if_false]
    rw [String.toList_append, dropWord?_append, Option.bind_some, hmore]
    rfl

namespace Interval

theorem ofText?_intercalate {ts : List Term} (h : ∀ t ∈ ts, t.IsRange) :
    ofText? (Connective.and.separator.intercalate (ts.map Term.text)) = ts.mapM ofTerm? := by
  cases ts with
  | nil => rfl
  | cons t ts =>
    have hread := readRangeTerms?_intercalate h (Nat.le_refl _)
    have hne : Connective.and.separator.intercalate ((t :: ts).map Term.text) ≠ "" := by
      intro hempty
      rw [hempty] at hread
      cases hread
    rw [ofText?, if_neg hne, hread, Option.bind_some]

theorem readEnd?_star : readEnd? "*" = some none := rfl

theorem readEnd?_unboundedMin :
    readEnd? Value.unboundedMin = some (some (-100000000000000000000)) := by decide

theorem readEnd?_unboundedMax :
    readEnd? Value.unboundedMax = some (some 100000000000000000000) := by decide

theorem ofTerm?_range {b : Bounds} {field low high : String} {lowEnd highEnd : Option Int}
    (hlow : readEnd? low = some lowEnd) (hhigh : readEnd? high = some highEnd) :
    ofTerm? (.range b field low high) = some (field, ⟨b, lowEnd, highEnd⟩) := by
  rw [ofTerm?, hlow, hhigh]
  rfl

end Interval

namespace Limit

theorem lowerEnd_value (l : Limit) : l.value.lowerEnd = l.lower.value := by
  cases l with
  | range low high => rfl
  | number n =>
    cases n with
    | signed n => rfl
    | unsigned n =>
      simp only [value, lower, WholeNumber.value, Value.ofUInt64]
      split <;> rfl

theorem upperEnd_value (l : Limit) : l.value.upperEnd = l.upper.value := by
  cases l with
  | range low high => rfl
  | number n =>
    cases n with
    | signed n => rfl
    | unsigned n =>
      simp only [value, upper, WholeNumber.value, Value.ofUInt64]
      split <;> rfl

end Limit

theorem WholeNumber.isWord (n : WholeNumber) : IsWord n.value.render := by
  rw [n.render_value]
  exact isWord_int n.toInt

/-- A one-sided comparison is a range, and its interval is that of the comparison. -/
theorem Term.compared_limit {c : Comparison} (hc : c ≠ .between) {field : String}
    (hfield : ∀ d ∈ field.toList, isBracket d = false) (l : Limit) :
    (compared c field l.value).IsRange ∧
      Interval.ofTerm? (compared c field l.value) = some (field, c.interval l) := by
  have hlower := Interval.readEnd?_value l.lower
  have hupper := Interval.readEnd?_value l.upper
  cases c with
  | between => exact absurd rfl hc
  | atMost =>
    rw [compared, l.upperEnd_value]
    exact ⟨⟨hfield, by decide, l.upper.isWord⟩,
      Interval.ofTerm?_range Interval.readEnd?_unboundedMin hupper⟩
  | atLeast =>
    rw [compared, l.lowerEnd_value]
    exact ⟨⟨hfield, l.lower.isWord, by decide⟩,
      Interval.ofTerm?_range hlower Interval.readEnd?_unboundedMax⟩
  | below =>
    rw [compared, l.upperEnd_value]
    exact ⟨⟨hfield, by decide, l.upper.isWord⟩,
      Interval.ofTerm?_range Interval.readEnd?_star hupper⟩
  | above =>
    rw [compared, l.lowerEnd_value]
    exact ⟨⟨hfield, l.lower.isWord, by decide⟩,
      Interval.ofTerm?_range hlower Interval.readEnd?_star⟩

theorem Term.isBlank_text (t : Term) : Text.isBlank t.text = false := by
  have hcolon : Text.isBlank ":" = false := by decide
  have hspaced : Text.isBlank ": " = false := by decide
  cases t <;> simp [text, hcolon, hspaced]

theorem isBlank_intercalate_terms {ts : List Term} (h : ts ≠ []) :
    Text.isBlank (Connective.and.separator.intercalate (ts.map Term.text)) = false := by
  obtain ⟨t, ts, rfl⟩ := List.exists_cons_of_ne_nil h
  cases ts <;> simp [t.isBlank_text, String.append_assoc]

namespace SearchQuery

theorem selector_compare_singleton (q : SearchQuery) (c : Comparison) {p : Predicate}
    (h : Text.isBlank ((p.adjust c).compileRanges c.bounds) = false) :
    (q.compare c [p]).selector =
      q.selector ++ joint q.selector .and ++ wrap (wrap ((p.adjust c).compileRanges c.bounds)) := by
  have hselector : (q.compare c [p]).selector =
      pushGroup q.selector [(p.adjust c).compileRanges c.bounds] .and := rfl
  have hsolid : solid [(p.adjust c).compileRanges c.bounds] =
      [(p.adjust c).compileRanges c.bounds] := by simp [solid, h]
  have hjoined : joined .and [(p.adjust c).compileRanges c.bounds] =
      wrap ((p.adjust c).compileRanges c.bounds) := by simp [joined]
  rw [hselector, pushGroup_eq, hsolid, hjoined, pushRestriction_solid]
  simp [wrap, h]

end SearchQuery

namespace Interval

theorem mapM_ofTerm? {c : Comparison} (hc : c ≠ .between) {limits : List (String × Limit)}
    (hfields : ∀ e ∈ limits, ∀ d ∈ e.1.toList, isBracket d = false) :
    (limits.map fun e => Term.compared c e.1 e.2.value).mapM ofTerm? =
      some (limits.map fun e => (e.1, c.interval e.2)) := by
  induction limits with
  | nil => rfl
  | cons e limits ih =>
    obtain ⟨he, hrest⟩ := List.forall_mem_cons.1 hfields
    rw [List.map_cons, List.mapM_cons, (Term.compared_limit hc he e.2).2, ih hrest]
    rfl

/-- A one-sided comparison has one range for each field, which holds the integers, as far as 64 bits
reach with a sign or without, that compare as asked. -/
theorem ofText?_compileRanges {c : Comparison} (hc : c ≠ .between) {limits : List (String × Limit)}
    (hfields : ∀ e ∈ limits, ∀ d ∈ e.1.toList, isBracket d = false) :
    let p : Predicate := ⟨limits.map fun e => (e.1, e.2.value)⟩
    let text := (p.adjust c).compileRanges c.bounds
    (∃ intervals, ofText? text = some intervals ∧
      List.Forall₂ (fun e i => i.1 = e.1 ∧ ∀ x : Int, Int64.minValue.toInt ≤ x → x < UInt64.size →
        (i.2.Contains x ↔ c.Holds e.2 x)) limits intervals) ∧
    (limits ≠ [] → ∀ q : SearchQuery, (q.compare c [p]).selector =
      q.selector ++ SearchQuery.joint q.selector .and ++ "((" ++ text ++ "))") := by
  intro p text
  have hterms : p.comparisons c = limits.map fun e => Term.compared c e.1 e.2.value := by
    rw [Predicate.comparisons, List.map_map]
    rfl
  have htext : text = Connective.and.separator.intercalate ((p.comparisons c).map Term.text) :=
    (p.compileRanges_eq c).trans (Expr.textOf_ofTerms .and _)
  have hranges : ∀ t ∈ p.comparisons c, t.IsRange := by
    rw [hterms]
    intro t ht
    obtain ⟨e, he, rfl⟩ := List.mem_map.1 ht
    exact (Term.compared_limit hc (hfields e he) e.2).1
  refine ⟨⟨limits.map fun e => (e.1, c.interval e.2), ?_, ?_⟩, fun hne q => ?_⟩
  · rw [htext, ofText?_intercalate hranges, hterms, mapM_ofTerm? hc hfields]
  · rw [List.forall₂_map_right_iff, List.forall₂_same]
    exact fun e _ => ⟨rfl, fun x hlow hhigh => Comparison.contains_interval hlow hhigh⟩
  · have hblank : Text.isBlank text = false := by
      rw [htext]
      refine isBlank_intercalate_terms ?_
      rw [hterms]
      simpa using hne
    have hopening : ("((" : String) = "(" ++ "(" := rfl
    have hclosing : ("))" : String) = ")" ++ ")" := rfl
    rw [SearchQuery.selector_compare_singleton q c hblank, hopening, hclosing]
    simp only [SearchQuery.wrap, String.append_assoc, text]

def belowLimits : List (String × Limit) :=
  [("stock", .number (.unsigned 18446744073709551615)),
   ("price: net", .range (.signed (-5)) (.signed (-9223372036854775808)))]

theorem ofText?_compileRanges_below :
    (∀ e ∈ belowLimits, ∀ d ∈ e.1.toList, isBracket d = false) ∧
    ∃ stock price, ofText? ("stock:\x7b* TO 18446744073709551615\x7d AND " ++
        "price: net:\x7b* TO -9223372036854775808\x7d") =
        some [("stock", stock), ("price: net", price)] ∧
      stock.Contains 18446744073709551614 ∧ ¬ stock.Contains 18446744073709551615 ∧
      ¬ price.Contains (-9223372036854775808) := by
  have hfields : ∀ e ∈ belowLimits, ∀ d ∈ e.1.toList, isBracket d = false := by
    have hall : belowLimits.all (fun e => e.1.toList.all fun d => !isBracket d) = true := by decide
    simpa [List.all_eq_true] using hall
  refine ⟨hfields, ?_⟩
  obtain ⟨⟨intervals, hread, hintervals⟩, -⟩ :=
    ofText?_compileRanges (c := .below) (by decide) hfields
  have htext : (Predicate.adjust .below ⟨belowLimits.map fun e => (e.1, e.2.value)⟩).compileRanges
      Comparison.below.bounds = "stock:\x7b* TO 18446744073709551615\x7d AND " ++
        "price: net:\x7b* TO -9223372036854775808\x7d" := by decide +kernel
  rw [htext] at hread
  obtain _ | ⟨⟨hstock, hstockHolds⟩, _ | ⟨⟨hprice, hpriceHolds⟩, _ | _⟩⟩ := hintervals
  rename_i stock price
  obtain ⟨stock, s⟩ := stock
  obtain ⟨price, p⟩ := price
  obtain rfl : stock = "stock" := hstock
  obtain rfl : price = "price: net" := hprice
  refine ⟨s, p, hread, ?_, ?_, ?_⟩
  · exact (hstockHolds _ (by decide) (by decide)).2 (by decide)
  · exact fun h => absurd ((hstockHolds _ (by decide) (by decide)).1 h) (by decide)
  · exact fun h => absurd ((hpriceHolds _ (by decide) (by decide)).1 h) (by decide)

end Interval
end SearchCriteria
