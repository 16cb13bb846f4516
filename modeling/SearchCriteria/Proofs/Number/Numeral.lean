import Mathlib.Data.List.TakeWhile
import SearchCriteria.Number.Decimal

/-! Numerals. A numeral that is written for an integer is read back as this integer; every numeral
of an integer is one of a floating-point number, and none has any characters but letters, digits,
signs and points. -/
namespace SearchCriteria

theorem all_isDigit_toDigits (n : Nat) : (Nat.toDigits 10 n).all Char.isDigit = true :=
  List.all_eq_true.2 fun _ hc => Nat.isDigit_of_mem_toDigits (by decide) (by decide) hc

theorem digitsValue_toDigits (n : Nat) : digitsValue (Nat.toDigits 10 n) = n :=
  Nat.ofDigitChars_toDigits (by decide) (by decide)

theorem readInteger?_toDigits (n : Nat) :
    Decimal.readInteger? (Nat.toDigits 10 n) = some (n : Int) := by
  have hall := all_isDigit_toDigits n
  have hvalue := digitsValue_toDigits n
  obtain ⟨c, cs, hcons⟩ := List.exists_cons_of_ne_nil (Nat.toDigits_ne_nil (b := 10) (n := n))
  rw [hcons] at hall hvalue ⊢
  have hc : c.isDigit = true := List.all_eq_true.1 hall c List.mem_cons_self
  -- A digit is no sign, so the numeral is read by the last case.
  unfold Decimal.readInteger?
  split
  · next h => exact absurd ((List.cons.inj h).1 ▸ hc) (by decide)
  · next h => exact absurd ((List.cons.inj h).1 ▸ hc) (by decide)
  · rw [hall, hvalue]
    rfl

theorem readInteger?_neg_toDigits (n : Nat) :
    Decimal.readInteger? ('-' :: Nat.toDigits 10 n) = some (-(n : Int)) := by
  have hne : (Nat.toDigits 10 n).isEmpty = false := by simp [Nat.toDigits_ne_nil]
  rw [Decimal.readInteger?, all_isDigit_toDigits, digitsValue_toDigits, hne]
  rfl

theorem readInteger?_toString (n : Int) : Decimal.readInteger? (toString n).toList = some n := by
  rw [Int.toString_eq_repr, Int.repr_eq_if]
  split
  · next h =>
    rw [Nat.repr_eq_ofList_toDigits, String.toList_ofList, readInteger?_toDigits,
      Int.toNat_of_nonneg h]
  · next h =>
    have htext : ("-" ++ (-n).toNat.repr).toList = '-' :: Nat.toDigits 10 (-n).toNat := by
      simp [Nat.repr_eq_ofList_toDigits]
    have hneg : -((-n).toNat : Int) = n := by omega
    rw [htext, readInteger?_neg_toDigits, hneg]

theorem isAlpha_eq (c : Char) : c.isAlpha = (c.isUpper || c.isLower) := rfl

def isNumeralChar (c : Char) : Bool := c.isAlphanum || c = '+' || c = '-' || c = '.'

namespace Decimal

variable {cs : List Char} {c : Char} {n : Int}

/-- A numeral of an integer is a run of digits behind at most one sign. -/
theorem run_of_readInteger? (h : readInteger? cs = some n) :
    ∃ sign ds, cs = sign ++ ds ∧ sign ∈ [[], ['+'], ['-']] ∧ ds ≠ [] ∧
      ds.all Char.isDigit = true := by
  have hrun {ds : List Char} {m : Int}
      (hds : (if (!ds.isEmpty && ds.all Char.isDigit) = true then some m else none) = some n) :
      ds ≠ [] ∧ ds.all Char.isDigit = true := by
    split at hds
    · next hall => simpa using hall
    · cases hds
  unfold readInteger? at h
  split at h
  · next ds => exact ⟨['+'], ds, rfl, by simp, hrun h⟩
  · next ds => exact ⟨['-'], ds, rfl, by simp, hrun h⟩
  · exact ⟨[], cs, rfl, by simp, hrun h⟩

theorem exists_isDigit_of_readInteger? (h : readInteger? cs = some n) :
    ∃ d ∈ cs, d.isDigit = true := by
  obtain ⟨sign, ds, rfl, -, hne, hall⟩ := run_of_readInteger? h
  obtain ⟨d, ds, rfl⟩ := List.exists_cons_of_ne_nil hne
  exact ⟨d, by simp, List.all_eq_true.1 hall d (by simp)⟩

theorem isNumeralChar_of_isDigit (h : c.isDigit = true) : isNumeralChar c = true := by
  simp [isNumeralChar, Char.isAlphanum, h]

theorem isNumeralChar_of_readInteger? (h : readInteger? cs = some n) (hc : c ∈ cs) :
    isNumeralChar c = true := by
  obtain ⟨sign, ds, rfl, hsign, -, hall⟩ := run_of_readInteger? h
  rcases List.mem_append.1 hc with hc | hc
  · simp only [List.mem_cons, List.not_mem_nil, or_false] at hsign
    rcases hsign with rfl | rfl | rfl
    · cases hc
    · simp [isNumeralChar, List.mem_singleton.1 hc]
    · simp [isNumeralChar, List.mem_singleton.1 hc]
  · exact isNumeralChar_of_isDigit (List.all_eq_true.1 hall c hc)

theorem isDigit_or_mem_dropWhile (hc : c ∈ cs) :
    c.isDigit = true ∨ c ∈ cs.dropWhile Char.isDigit := by
  rw [← List.takeWhile_append_dropWhile (p := Char.isDigit) (l := cs), List.mem_append] at hc
  exact hc.imp_left fun hrun => List.all_eq_true.1 List.all_takeWhile c hrun

theorem isNumeralChar_of_exponent {e : Int}
    (h : (match cs with
      | [] => some 0
      | c :: r => if c = 'e' || c = 'E' then readInteger? r else none) = some e)
    (hc : c ∈ cs) : isNumeralChar c = true := by
  cases cs with
  | nil => cases hc
  | cons letter r =>
    simp only [] at h
    split at h
    · next hletter =>
      rcases List.mem_cons.1 hc with rfl | hc
      · simp only [Bool.or_eq_true, decide_eq_true_eq] at hletter
        rcases hletter with rfl | rfl <;> decide
      · exact isNumeralChar_of_readInteger? h hc
    · cases h

theorem isNumeralChar_of_read? {d : Decimal} (h : read? cs = some d) (hc : c ∈ cs) :
    isNumeralChar c = true := by
  have hexponent {isEmpty : Bool} {f : Int → Decimal} {o : Option Int}
      (ho : (if isEmpty = true then none else o.map f) = some d) : ∃ e, o = some e := by
    cases o with
    | none => simp at ho
    | some e => exact ⟨e, rfl⟩
  rcases isDigit_or_mem_dropWhile hc with hdigit | hc
  · exact isNumeralChar_of_isDigit hdigit
  simp only [read?] at h
  split at h
  · next r hpoint =>
    obtain ⟨e, he⟩ := hexponent h
    rw [hpoint] at hc
    rcases List.mem_cons.1 hc with rfl | hc
    · decide
    rcases isDigit_or_mem_dropWhile hc with hdigit | hc
    · exact isNumeralChar_of_isDigit hdigit
    · exact isNumeralChar_of_exponent he hc
  · obtain ⟨e, he⟩ := hexponent h
    exact isNumeralChar_of_exponent he hc

theorem toLower_of_not_isUpper (h : ¬ c.isUpper = true) : c.toLower = c := by
  unfold Char.toLower
  split
  · next hupper => exact absurd (decide_eq_true hupper) h
  · rfl

theorem isNumeralChar_of_toLower {name : List Char} (h : cs.map Char.toLower = name)
    (hname : name.all Char.isAlphanum = true) (hc : c ∈ cs) : isNumeralChar c = true := by
  have hlower : c.toLower.isAlphanum = true :=
    List.all_eq_true.1 hname _ (h ▸ List.mem_map_of_mem hc)
  by_cases hupper : c.isUpper = true
  · have halpha : c.isAlpha = true := by rw [isAlpha_eq, hupper, Bool.true_or]
    simp [isNumeralChar, Char.isAlphanum, halpha]
  · rw [toLower_of_not_isUpper hupper] at hlower
    simp [isNumeralChar, hlower]

theorem isNumeralChar_of_readMagnitude? {round : Bool → Nat → Nat → Double} {negative : Bool}
    {x : Double} (h : readMagnitude? round negative cs = some x) (hc : c ∈ cs) :
    isNumeralChar c = true := by
  simp only [readMagnitude?] at h
  split at h
  · next hnan => exact isNumeralChar_of_toLower hnan (by decide) hc
  split at h
  · next hinf =>
    simp only [Bool.or_eq_true, decide_eq_true_eq] at hinf
    rcases hinf with hinf | hinf
    · exact isNumeralChar_of_toLower hinf (by decide) hc
    · exact isNumeralChar_of_toLower hinf (by decide) hc
  · obtain ⟨d, hd, -⟩ := Option.map_eq_some_iff.1 h
    exact isNumeralChar_of_read? hd hc

theorem isNumeralChar_of_readWith? {round : Bool → Nat → Nat → Double} {x : Double}
    (h : readWith? round cs = some x) (hc : c ∈ cs) : isNumeralChar c = true := by
  unfold readWith? at h
  split at h
  · rcases List.mem_cons.1 hc with rfl | hc
    · decide
    · exact isNumeralChar_of_readMagnitude? h hc
  · rcases List.mem_cons.1 hc with rfl | hc
    · decide
    · exact isNumeralChar_of_readMagnitude? h hc
  · exact isNumeralChar_of_readMagnitude? h hc

theorem readMagnitude?_isSome (hne : cs ≠ []) (hall : cs.all Char.isDigit = true)
    (round : Bool → Nat → Nat → Double) (negative : Bool) :
    (readMagnitude? round negative cs).isSome = true := by
  have htake : cs.takeWhile Char.isDigit = cs :=
    List.takeWhile_eq_self_iff.2 (List.all_eq_true.1 hall)
  have hdrop : cs.dropWhile Char.isDigit = [] :=
    List.dropWhile_eq_nil_iff.2 (List.all_eq_true.1 hall)
  have hread : (read? cs).isSome = true := by
    simp [read?, htake, hdrop, hne]
  simp only [readMagnitude?]
  split
  · rfl
  split
  · rfl
  · simpa using hread

/-- Every numeral of an integer is one of a floating-point number. -/
theorem readWith?_isSome_of_readInteger? (h : readInteger? cs = some n)
    (round : Bool → Nat → Nat → Double) : (readWith? round cs).isSome = true := by
  obtain ⟨sign, ds, rfl, hsign, hne, hall⟩ := run_of_readInteger? h
  simp only [List.mem_cons, List.not_mem_nil, or_false] at hsign
  rcases hsign with rfl | rfl | rfl
  · obtain ⟨d, ds, rfl⟩ := List.exists_cons_of_ne_nil hne
    have hdigit : d.isDigit = true := List.all_eq_true.1 hall d (by simp)
    have hplus : d ≠ '+' := by
      rintro rfl
      cases hdigit
    have hminus : d ≠ '-' := by
      rintro rfl
      cases hdigit
    simpa [readWith?, hplus, hminus] using readMagnitude?_isSome hne hall round false
  · exact readMagnitude?_isSome hne hall round false
  · exact readMagnitude?_isSome hne hall round true

end Decimal
end SearchCriteria
