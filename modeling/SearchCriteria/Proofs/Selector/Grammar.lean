import SearchCriteria.Query.Term
import SearchCriteria.Text.Blank
import SearchCriteria.Text.Position

/-! The grammar of selectors that are compiled from words: terms, groups in parentheses, and
levels whose items are all joined by the same connective. A reader of this grammar accepts
exactly what the grammar writes, so that a text has one expression at most. -/
namespace SearchCriteria

open Text

/-- Characters that neither are blank nor mean something in the grammar. -/
def isWordChar (c : Char) : Bool :=
  !isBlankChar c && !(['(', ')', '[', ']', '\x7b', '\x7d', ':'].contains c)

def IsWord (s : String) : Prop := s ≠ "" ∧ s.toList.all isWordChar = true

instance (s : String) : Decidable (IsWord s) := inferInstanceAs (Decidable (_ ∧ _))

inductive Term
  | equal (field value : String)
  /-- The form of a scalar inside a range restriction. -/
  | spaced (field value : String)
  | range (b : Bounds) (field low high : String)
  deriving DecidableEq

namespace Term

def text : Term → String
  | equal field value => field ++ ":" ++ value
  | spaced field value => field ++ ": " ++ value
  | range b field low high => field ++ ":" ++ b.opening ++ low ++ " TO " ++ high ++ b.closing

def WellFormed : Term → Prop
  | equal field value => IsWord field ∧ IsWord value
  | spaced field value => IsWord field ∧ IsWord value
  | range _ field low high => IsWord field ∧ IsWord low ∧ IsWord high

end Term

/-- A selector as it is read. -/
inductive Expr
  | term (t : Term)
  | group (e : Expr)
  /-- An item, and what is joined to it on the same level. -/
  | join (c : Connective) (item rest : Expr)
  deriving DecidableEq

namespace Expr

def text : Expr → String
  | term t => t.text
  | group e => "(" ++ e.text ++ ")"
  | join c item rest => item.text ++ c.separator ++ rest.text

def IsItem : Expr → Prop
  | join .. => False
  | _ => True

def JoinedBy (c : Connective) : Expr → Prop
  | join d _ _ => d = c
  | _ => True

/-- Terms are made of words, and no level has both connectives. -/
def WellFormed : Expr → Prop
  | term t => t.WellFormed
  | group e => e.WellFormed
  | join c item rest => item.IsItem ∧ item.WellFormed ∧ rest.JoinedBy c ∧ rest.WellFormed

def eval (holds : Term → Bool) : Expr → Bool
  | term t => holds t
  | group e => e.eval holds
  | join .and item rest => item.eval holds && rest.eval holds
  | join .or item rest => item.eval holds || rest.eval holds

end Expr

/-! The reader goes over the characters from left to right and hands on what is left. -/

def readWord? (cs : List Char) : Option (String × List Char) :=
  match cs.takeWhile isWordChar with
  | [] => none
  | c :: word => some (String.ofList (c :: word), cs.dropWhile isWordChar)

def readRange? (b : Bounds) (field : String) (cs : List Char) : Option (Term × List Char) := do
  let (low, cs) ← readWord? cs
  let cs ← dropWord? " TO ".toList cs
  let (high, cs) ← readWord? cs
  let cs ← dropWord? b.closing.toList cs
  return (.range b field low high, cs)

def readTerm? (cs : List Char) : Option (Term × List Char) := do
  let (field, cs) ← readWord? cs
  let cs ← dropWord? ":".toList cs
  match cs with
  | '[' :: cs => readRange? .inclusive field cs
  | '\x7b' :: cs => readRange? .exclusive field cs
  | ' ' :: cs => (readWord? cs).map fun r => (.spaced field r.1, r.2)
  | cs => (readWord? cs).map fun r => (.equal field r.1, r.2)

def readJoint? (cs : List Char) : Option (Connective × List Char) :=
  match dropWord? Connective.and.separator.toList cs with
  | some cs => some (.and, cs)
  | none => (dropWord? Connective.or.separator.toList cs).map fun cs => (.or, cs)

/-- An item, where `level?` reads what stands between parentheses. -/
def readItem? (level? : List Char → Option (Expr × List Char)) :
    List Char → Option (Expr × List Char)
  | '(' :: cs =>
    match level? cs with
    | some (e, ')' :: cs) => some (.group e, cs)
    | _ => none
  | cs => (readTerm? cs).map fun r => (.term r.1, r.2)

/-- A level of at most `fuel` nested or joined items; if `c?` is given, it is joined by that. -/
def readLevel? : Nat → Option Connective → List Char → Option (Expr × List Char)
  | 0, _, _ => none
  | fuel + 1, c?, cs =>
    match readItem? (readLevel? fuel none) cs with
    | none => none
    | some (item, cs) =>
      match readJoint? cs with
      | none => some (item, cs)
      | some (c, cs) =>
        if c?.all (· = c) then
          (readLevel? fuel (some c) cs).map fun r => (.join c item r.1, r.2)
        else none

def Expr.parse? (s : String) : Option Expr :=
  match readLevel? (s.length + 1) none s.toList with
  | some (e, []) => some e
  | _ => none

/-! The reader finds what was written. -/

def EndsWord (cs : List Char) : Prop := ∀ c ∈ cs.head?, isWordChar c = false

theorem readWord?_append {w : String} {rest : List Char} (hw : IsWord w) (hrest : EndsWord rest) :
    readWord? (w.toList ++ rest) = some (w, rest) := by
  have hall : ∀ c ∈ w.toList, isWordChar c = true := List.all_eq_true.1 hw.2
  have htake : rest.takeWhile isWordChar = [] := by
    cases rest with
    | nil => rfl
    | cons c cs => simp [hrest c (by simp)]
  have hdrop : rest.dropWhile isWordChar = rest := by
    cases rest with
    | nil => rfl
    | cons c cs => simp [hrest c (by simp)]
  have hne : w.toList ≠ [] := by simpa using hw.1
  obtain ⟨c, word, hcons⟩ := List.exists_cons_of_ne_nil hne
  rw [readWord?, List.takeWhile_append_of_pos hall, List.dropWhile_append_of_pos hall, htake, hdrop,
    List.append_nil, hcons]
  simp [← hcons]

theorem IsWord.exists_cons {w : String} (hw : IsWord w) :
    ∃ c cs, w.toList = c :: cs ∧ isWordChar c = true := by
  have hne : w.toList ≠ [] := by simpa using hw.1
  obtain ⟨c, cs, hcons⟩ := List.exists_cons_of_ne_nil hne
  have hall := List.all_eq_true.1 hw.2
  exact ⟨c, cs, hcons, hall c (by simp [hcons])⟩

theorem readRange?_append {b : Bounds} {field low high : String} (hlow : IsWord low)
    (hhigh : IsWord high) (rest : List Char) :
    readRange? b field
        (low.toList ++ (" TO ".toList ++ (high.toList ++ (b.closing.toList ++ rest)))) =
      some (.range b field low high, rest) := by
  have hspace : EndsWord (" TO ".toList ++ (high.toList ++ (b.closing.toList ++ rest))) := by
    simp [EndsWord]; decide
  have hclosing : EndsWord (b.closing.toList ++ rest) := by
    cases b <;> simp [EndsWord, Bounds.closing] <;> decide
  rw [readRange?, readWord?_append hlow hspace]
  simp only [Option.bind_eq_bind, Option.bind_some, dropWord?_append]
  rw [readWord?_append hhigh hclosing]
  simp [dropWord?_append]

theorem readTerm?_append {t : Term} (ht : t.WellFormed) {rest : List Char}
    (hrest : EndsWord rest) : readTerm? (t.text.toList ++ rest) = some (t, rest) := by
  have hcolon : ∀ cs, EndsWord (":".toList ++ cs) := fun cs => by simp [EndsWord]; decide
  cases t with
  | equal field value =>
    obtain ⟨hfield, hvalue⟩ := ht
    obtain ⟨c, cs, hcons, hc⟩ := hvalue.exists_cons
    have htext : (Term.equal field value).text.toList ++ rest =
        field.toList ++ (":".toList ++ (value.toList ++ rest)) := by simp [Term.text]
    rw [htext, readTerm?, readWord?_append hfield (hcolon _)]
    simp only [Option.bind_eq_bind, Option.bind_some, dropWord?_append]
    have hread := readWord?_append hvalue hrest
    rw [hcons, List.cons_append] at hread ⊢
    split
    · next h => exact absurd ((List.cons.inj h).1 ▸ hc) (by decide)
    · next h => exact absurd ((List.cons.inj h).1 ▸ hc) (by decide)
    · next h => exact absurd ((List.cons.inj h).1 ▸ hc) (by decide)
    · rw [hread]; rfl
  | spaced field value =>
    obtain ⟨hfield, hvalue⟩ := ht
    have htext : (Term.spaced field value).text.toList ++ rest =
        field.toList ++ (":".toList ++ (' ' :: (value.toList ++ rest))) := by simp [Term.text]
    rw [htext, readTerm?, readWord?_append hfield (hcolon _)]
    simp only [Option.bind_eq_bind, Option.bind_some, dropWord?_append]
    rw [readWord?_append hvalue hrest]
    rfl
  | range b field low high =>
    obtain ⟨hfield, hlow, hhigh⟩ := ht
    have htext : (Term.range b field low high).text.toList ++ rest =
        field.toList ++ (":".toList ++ (b.opening.toList ++ (low.toList ++ (" TO ".toList ++
          (high.toList ++ (b.closing.toList ++ rest)))))) := by simp [Term.text]
    rw [htext, readTerm?, readWord?_append hfield (hcolon _)]
    simp only [Option.bind_eq_bind, Option.bind_some, dropWord?_append]
    cases b with
    | inclusive => exact readRange?_append hlow hhigh rest
    | exclusive => exact readRange?_append hlow hhigh rest

theorem readJoint?_append (c : Connective) (rest : List Char) :
    readJoint? (c.separator.toList ++ rest) = some (c, rest) := by
  cases c with
  | and => simp [readJoint?, dropWord?_append]
  | or =>
    have hand : dropWord? Connective.and.separator.toList (Connective.or.separator.toList ++ rest)
        = none := rfl
    simp [readJoint?, hand, dropWord?_append]

/-- A level ends with the text or with a closing parenthesis. -/
def EndsLevel (cs : List Char) : Prop := ∀ c ∈ cs.head?, c = ')'

theorem EndsLevel.endsWord {cs : List Char} (h : EndsLevel cs) : EndsWord cs := by
  intro c hc
  rw [h c hc]
  decide

theorem readJoint?_ends {cs : List Char} (h : EndsLevel cs) : readJoint? cs = none := by
  cases cs with
  | nil => rfl
  | cons c cs =>
    have hc : c = ')' := h c (by simp)
    rw [hc]
    rfl

theorem Term.WellFormed.exists_cons {t : Term} (ht : t.WellFormed) :
    ∃ c cs, t.text.toList = c :: cs ∧ isWordChar c = true := by
  have hfield : ∃ field tail, IsWord field ∧ t.text.toList = field.toList ++ tail := by
    cases t with
    | equal field value => exact ⟨field, _, ht.1, by simp [text]; rfl⟩
    | spaced field value => exact ⟨field, _, ht.1, by simp [text]; rfl⟩
    | range b field low high => exact ⟨field, _, ht.1, by simp [text]; rfl⟩
  obtain ⟨field, tail, hw, htext⟩ := hfield
  obtain ⟨c, cs, hcons, hc⟩ := hw.exists_cons
  exact ⟨c, cs ++ tail, by rw [htext, hcons, List.cons_append], hc⟩

/-- An item is read whole if levels that are shorter are. -/
theorem readItem?_append {level? : List Char → Option (Expr × List Char)} {item : Expr}
    (hlevel : ∀ e : Expr, e.WellFormed → e.text.length < item.text.length →
      ∀ rest, EndsLevel rest → level? (e.text.toList ++ rest) = some (e, rest))
    (hitem : item.IsItem) (hwf : item.WellFormed) {rest : List Char} (hrest : EndsWord rest) :
    readItem? level? (item.text.toList ++ rest) = some (item, rest) := by
  cases item with
  | join c item rest => exact absurd hitem id
  | term t =>
    have hread := readTerm?_append hwf hrest
    obtain ⟨c, cs, hcons, hc⟩ := Term.WellFormed.exists_cons hwf
    rw [hcons, List.cons_append] at hread
    rw [Expr.text, hcons, List.cons_append, readItem?]
    · rw [hread]; rfl
    · rintro cs' h
      exact absurd ((List.cons.inj h).1 ▸ hc) (by decide)
  | group e =>
    have htext : (Expr.group e).text.toList ++ rest = '(' :: (e.text.toList ++ ')' :: rest) := by
      simp [Expr.text]
    have hshort : e.text.length < (Expr.group e).text.length := by
      have hopen : "(".length = 1 := rfl
      simp only [Expr.text, String.length_append]
      omega
    have hread := hlevel e hwf hshort (')' :: rest) (by simp [EndsLevel])
    rw [htext, readItem?, hread]
    rfl

theorem readLevel?_append {fuel : Nat} {e : Expr} (he : e.WellFormed) {c? : Option Connective}
    (hc : ∀ c ∈ c?, e.JoinedBy c) {rest : List Char} (hrest : EndsLevel rest)
    (hfuel : e.text.length < fuel) :
    readLevel? fuel c? (e.text.toList ++ rest) = some (e, rest) := by
  induction fuel generalizing e c? rest with
  | zero => omega
  | succ fuel ih =>
    have hlevel : ∀ item : Expr, item.text.length ≤ fuel → ∀ e : Expr, e.WellFormed →
        e.text.length < item.text.length → ∀ rest, EndsLevel rest →
        readLevel? fuel none (e.text.toList ++ rest) = some (e, rest) :=
      fun item hitem e he hlt rest hrest => ih he (by simp) hrest (by omega)
    cases e with
    | join c item more =>
      obtain ⟨hitem, hiwf, hjoined, hmwf⟩ := he
      have hlength : item.text.length + c.separator.length + more.text.length =
          (Expr.join c item more).text.length := by simp [Expr.text, String.length_append]
      have hseparator : 0 < c.separator.length := by cases c <;> decide
      have htext : (Expr.join c item more).text.toList ++ rest =
          item.text.toList ++ (c.separator.toList ++ (more.text.toList ++ rest)) := by
        simp [Expr.text]
      have hends : EndsWord (c.separator.toList ++ (more.text.toList ++ rest)) := by
        cases c <;> simp [EndsWord, Connective.separator] <;> decide
      have hread := readItem?_append (hlevel item (by omega)) hitem hiwf hends
      have hmore : readLevel? fuel (some c) (more.text.toList ++ rest) = some (more, rest) :=
        ih hmwf (by simpa using hjoined) hrest (by omega)
      have hallowed : c?.all (· = c) = true := by
        cases c? with
        | none => rfl
        | some d => simpa [Expr.JoinedBy, eq_comm] using hc d rfl
      rw [htext, readLevel?, hread]
      simp [readJoint?_append, hallowed, hmore]
    | term t =>
      have hread := readItem?_append (hlevel (.term t) (by omega)) trivial he hrest.endsWord
      rw [readLevel?, hread]
      simp [readJoint?_ends hrest]
    | group e =>
      have hread := readItem?_append (hlevel (.group e) (by omega)) trivial he hrest.endsWord
      rw [readLevel?, hread]
      simp [readJoint?_ends hrest]

/-! What the reader finds is what was written. -/

theorem readWord?_eq {cs rest : List Char} {w : String} (h : readWord? cs = some (w, rest)) :
    IsWord w ∧ cs = w.toList ++ rest := by
  have hsplit : cs.takeWhile isWordChar ++ cs.dropWhile isWordChar = cs :=
    List.takeWhile_append_dropWhile
  have hall : (cs.takeWhile isWordChar).all isWordChar = true := List.all_takeWhile
  unfold readWord? at h
  split at h
  · cases h
  · next c word htake =>
    obtain ⟨rfl, rfl⟩ := Prod.mk.inj (Option.some.inj h)
    rw [htake] at hsplit hall
    refine ⟨⟨?_, ?_⟩, ?_⟩
    · intro hempty
      have hlist := congrArg String.toList hempty
      simp at hlist
    · rw [String.toList_ofList, hall]
    · rw [String.toList_ofList, hsplit]

theorem dropWord?_eq {word cs rest : List Char} (h : dropWord? word cs = some rest) :
    cs = word ++ rest := by
  induction word generalizing cs with
  | nil => simpa [dropWord?] using h
  | cons c word ih =>
    cases cs with
    | nil => cases h
    | cons d cs =>
      unfold dropWord? at h
      split at h
      · next heq => rw [heq, ih h]; rfl
      · cases h

theorem readRange?_eq {b : Bounds} {field : String} {cs rest : List Char} {t : Term}
    (h : readRange? b field cs = some (t, rest)) :
    ∃ low high, t = .range b field low high ∧ IsWord low ∧ IsWord high ∧
      cs = low.toList ++ (" TO ".toList ++ (high.toList ++ (b.closing.toList ++ rest))) := by
  simp only [readRange?, Option.bind_eq_bind, Option.bind_eq_some_iff, Prod.exists] at h
  obtain ⟨low, cs₁, hlow, cs₂, hto, high, cs₃, hhigh, cs₄, hclose, hreturn⟩ := h
  obtain ⟨rfl, rfl⟩ := Prod.mk.inj (Option.some.inj hreturn)
  obtain ⟨hwlow, rfl⟩ := readWord?_eq hlow
  obtain ⟨hwhigh, rfl⟩ := readWord?_eq hhigh
  rw [dropWord?_eq hclose] at hto
  exact ⟨low, high, rfl, hwlow, hwhigh, by rw [dropWord?_eq hto]⟩

theorem readTerm?_eq {cs rest : List Char} {t : Term} (h : readTerm? cs = some (t, rest)) :
    t.WellFormed ∧ cs = t.text.toList ++ rest := by
  simp only [readTerm?, Option.bind_eq_bind, Option.bind_eq_some_iff, Prod.exists] at h
  obtain ⟨field, cs₁, hfield, cs₂, hcolon, h⟩ := h
  obtain ⟨hwfield, rfl⟩ := readWord?_eq hfield
  rw [dropWord?_eq hcolon]
  split at h
  · obtain ⟨low, high, rfl, hlow, hhigh, rfl⟩ := readRange?_eq h
    exact ⟨⟨hwfield, hlow, hhigh⟩, by simp [Term.text, Bounds.opening]⟩
  · obtain ⟨low, high, rfl, hlow, hhigh, rfl⟩ := readRange?_eq h
    exact ⟨⟨hwfield, hlow, hhigh⟩, by simp [Term.text, Bounds.opening]⟩
  · obtain ⟨⟨value, after⟩, hvalue, hreturn⟩ := Option.map_eq_some_iff.1 h
    obtain ⟨rfl, rfl⟩ := Prod.mk.inj hreturn
    obtain ⟨hwvalue, rfl⟩ := readWord?_eq hvalue
    exact ⟨⟨hwfield, hwvalue⟩, by simp [Term.text]⟩
  · obtain ⟨⟨value, after⟩, hvalue, hreturn⟩ := Option.map_eq_some_iff.1 h
    obtain ⟨rfl, rfl⟩ := Prod.mk.inj hreturn
    obtain ⟨hwvalue, rfl⟩ := readWord?_eq hvalue
    exact ⟨⟨hwfield, hwvalue⟩, by simp [Term.text]⟩

theorem readJoint?_eq {cs rest : List Char} {c : Connective}
    (h : readJoint? cs = some (c, rest)) : cs = c.separator.toList ++ rest := by
  unfold readJoint? at h
  split at h
  · next after hand =>
    obtain ⟨rfl, rfl⟩ := Prod.mk.inj (Option.some.inj h)
    exact dropWord?_eq hand
  · obtain ⟨after, hor, hreturn⟩ := Option.map_eq_some_iff.1 h
    obtain ⟨rfl, rfl⟩ := Prod.mk.inj hreturn
    exact dropWord?_eq hor

theorem readItem?_eq {level? : List Char → Option (Expr × List Char)}
    (hlevel : ∀ cs e rest, level? cs = some (e, rest) →
      e.WellFormed ∧ cs = e.text.toList ++ rest)
    {cs rest : List Char} {item : Expr} (h : readItem? level? cs = some (item, rest)) :
    item.IsItem ∧ item.WellFormed ∧ cs = item.text.toList ++ rest := by
  unfold readItem? at h
  split at h
  · split at h
    · next e after hread =>
      obtain ⟨rfl, rfl⟩ := Prod.mk.inj (Option.some.inj h)
      obtain ⟨hwf, hcs⟩ := hlevel _ _ _ hread
      exact ⟨trivial, hwf, by simp [hcs, Expr.text]⟩
    · cases h
  · obtain ⟨⟨t, after⟩, hterm, hreturn⟩ := Option.map_eq_some_iff.1 h
    obtain ⟨rfl, rfl⟩ := Prod.mk.inj hreturn
    obtain ⟨hwf, hcs⟩ := readTerm?_eq hterm
    exact ⟨trivial, hwf, hcs⟩

theorem Expr.IsItem.joinedBy {e : Expr} (h : e.IsItem) (c : Connective) : e.JoinedBy c := by
  cases e with
  | join d item rest => exact absurd h id
  | _ => trivial

theorem readLevel?_eq {fuel : Nat} {c? : Option Connective} {cs rest : List Char} {e : Expr}
    (h : readLevel? fuel c? cs = some (e, rest)) :
    (∀ c ∈ c?, e.JoinedBy c) ∧ e.WellFormed ∧ cs = e.text.toList ++ rest := by
  induction fuel generalizing c? cs e rest with
  | zero => cases h
  | succ fuel ih =>
    unfold readLevel? at h
    split at h
    · cases h
    · next item cs₁ hread =>
      obtain ⟨hitem, hwf, rfl⟩ := readItem?_eq (fun cs e rest h => (ih h).2) hread
      split at h
      · obtain ⟨rfl, rfl⟩ := Prod.mk.inj (Option.some.inj h)
        exact ⟨fun c _ => hitem.joinedBy c, hwf, rfl⟩
      · next c cs₂ hjoint =>
        rw [readJoint?_eq hjoint]
        split at h
        · next hallowed =>
          obtain ⟨⟨more, after⟩, hmore, hreturn⟩ := Option.map_eq_some_iff.1 h
          obtain ⟨rfl, rfl⟩ := Prod.mk.inj hreturn
          obtain ⟨hjoined, hmwf, rfl⟩ := ih hmore
          refine ⟨fun d hd => ?_, ⟨hitem, hwf, hjoined c rfl, hmwf⟩, by simp [Expr.text]⟩
          rw [Option.mem_def.1 hd] at hallowed
          simpa [Expr.JoinedBy, eq_comm] using hallowed
        · cases h

/-- The reader accepts what the grammar writes, and nothing else. -/
theorem Expr.parse?_eq_some_iff {s : String} {e : Expr} :
    Expr.parse? s = some e ↔ e.WellFormed ∧ e.text = s := by
  constructor
  · intro h
    unfold Expr.parse? at h
    split at h
    · next e' hread =>
      obtain rfl := Option.some.inj h
      obtain ⟨-, hwf, hcs⟩ := readLevel?_eq hread
      exact ⟨hwf, String.toList_inj.1 (by simpa using hcs.symm)⟩
    · cases h
  · rintro ⟨hwf, rfl⟩
    have hread : readLevel? (e.text.length + 1) none (e.text.toList ++ []) = some (e, []) :=
      readLevel?_append hwf (by simp) (by simp [EndsLevel]) (Nat.lt_succ_self _)
    rw [List.append_nil] at hread
    rw [Expr.parse?, hread]

example : Expr.parse? "(a:1 OR b: x) AND c:[1 TO *]" =
    some (.join .and (.group (.join .or (.term (.equal "a" "1")) (.term (.spaced "b" "x"))))
      (.term (.range .inclusive "c" "1" "*"))) := by decide +kernel
example : Expr.parse? "a:1 AND b:2 OR c:3" = none := by decide +kernel

end SearchCriteria
