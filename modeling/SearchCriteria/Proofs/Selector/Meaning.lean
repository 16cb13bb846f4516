import SearchCriteria.Proofs.Selector.NormalForm
import SearchCriteria.Proofs.Selector.Plain

/-! The meaning of compiled queries. The selector of a chain of predicates is the text of one
expression of the grammar, which is true exactly if the restrictions of the chain are. -/
namespace SearchCriteria

open SearchQuery

def Connective.combine {α : Type} (holds : α → Bool) : Connective → List α → Bool
  | .and, xs => xs.all holds
  | .or, xs => xs.any holds

namespace Expr

/-! Levels of expressions. -/

def level (c : Connective) : Expr → List Expr → Expr
  | item, [] => item
  | item, next :: rest => .join c item (level c next rest)

/-- A level of any number of items; without items there is no expression. -/
def level? (c : Connective) : List Expr → Option Expr
  | [] => none
  | item :: rest => some (level c item rest)

def textOf (e? : Option Expr) : String := (e?.map text).getD ""

def evalOf (holds : Term → Bool) (e? : Option Expr) : Bool := e?.all (eval holds)

theorem textOf_level? (c : Connective) (items : List Expr) :
    textOf (level? c items) = c.separator.intercalate (items.map text) := by
  cases items with
  | nil => rfl
  | cons item rest =>
    have htext : (level c item rest).text = c.separator.intercalate ((item :: rest).map text) := by
      induction rest generalizing item with
      | nil => simp [level]
      | cons next rest ih => simp [level, text, ih next]
    exact htext

theorem wellFormed_level {c : Connective} {item : Expr} {rest : List Expr}
    (h : ∀ e ∈ item :: rest, e.IsItem ∧ e.WellFormed) :
    (level c item rest).JoinedBy c ∧ (level c item rest).WellFormed := by
  induction rest generalizing item with
  | nil =>
    have hitem := h item (by simp)
    exact ⟨hitem.1.joinedBy c, hitem.2⟩
  | cons next rest ih =>
    have hitem := h item (by simp)
    have hrest : (level c next rest).JoinedBy c ∧ (level c next rest).WellFormed :=
      ih fun e he => h e (List.mem_cons_of_mem _ he)
    exact ⟨rfl, hitem.1, hitem.2, hrest⟩

theorem wellFormed_level? {c : Connective} {items : List Expr}
    (h : ∀ e ∈ items, e.IsItem ∧ e.WellFormed) : ∀ e ∈ level? c items, e.WellFormed := by
  intro e he
  cases items with
  | nil => cases he
  | cons item rest =>
    obtain rfl := Option.some.inj he
    exact (wellFormed_level h).2

theorem eval_level (holds : Term → Bool) (c : Connective) (item : Expr) (rest : List Expr) :
    (level c item rest).eval holds = c.combine (eval holds) (item :: rest) := by
  induction rest generalizing item with
  | nil => cases c <;> simp [level, Connective.combine]
  | cons next rest ih =>
    have hnext := ih next
    cases c with
    | and => rw [level, eval, hnext]; rfl
    | or => rw [level, eval, hnext]; rfl

theorem evalOf_level? (holds : Term → Bool) (c : Connective) (items : List Expr) :
    evalOf holds (level? c items) = (items.isEmpty || c.combine (eval holds) items) := by
  cases items with
  | nil => rfl
  | cons item rest => exact eval_level holds c item rest

/-! Levels of terms, and of groups. -/

def ofTerms (c : Connective) (ts : List Term) : Option Expr := level? c (ts.map term)

def ofGroups (c : Connective) (es : List Expr) : Option Expr := level? c (es.map group)

def ofMembers (c : Connective) (members : List (List Term)) : Option Expr :=
  ofGroups c (members.filterMap (ofTerms c))

theorem textOf_ofTerms (c : Connective) (ts : List Term) :
    textOf (ofTerms c ts) = c.separator.intercalate (ts.map Term.text) := by
  rw [ofTerms, textOf_level?, List.map_map]
  rfl

theorem textOf_ofGroups (c : Connective) (es : List Expr) :
    textOf (ofGroups c es) = joined c (es.map text) := by
  rw [ofGroups, textOf_level?, joined, List.map_map, List.map_map]
  rfl

theorem wellFormed_ofTerms {c : Connective} {ts : List Term} (h : ∀ t ∈ ts, t.WellFormed) :
    ∀ e ∈ ofTerms c ts, e.WellFormed := by
  refine wellFormed_level? fun e he => ?_
  obtain ⟨t, ht, rfl⟩ := List.mem_map.1 he
  exact ⟨trivial, h t ht⟩

theorem wellFormed_ofGroups {c : Connective} {es : List Expr} (h : ∀ e ∈ es, e.WellFormed) :
    ∀ e ∈ ofGroups c es, e.WellFormed := by
  refine wellFormed_level? fun e he => ?_
  obtain ⟨inner, hinner, rfl⟩ := List.mem_map.1 he
  exact ⟨trivial, h inner hinner⟩

theorem wellFormed_ofMembers {c : Connective} {members : List (List Term)}
    (h : ∀ ts ∈ members, ∀ t ∈ ts, t.WellFormed) : ∀ e ∈ ofMembers c members, e.WellFormed := by
  refine wellFormed_ofGroups fun e he => ?_
  obtain ⟨ts, hts, hread⟩ := List.mem_filterMap.1 he
  exact wellFormed_ofTerms (h ts hts) e hread

theorem evalOf_ofGroups (holds : Term → Bool) (c : Connective) (es : List Expr) :
    evalOf holds (ofGroups c es) = (es.isEmpty || c.combine (eval holds) es) := by
  rw [ofGroups, evalOf_level?]
  cases c <;> simp [Connective.combine, Function.comp_def, eval]

theorem evalOf_ofTerms (holds : Term → Bool) (c : Connective) (ts : List Term) :
    evalOf holds (ofTerms c ts) = (ts.isEmpty || c.combine holds ts) := by
  rw [ofTerms, evalOf_level?]
  cases c <;> simp [Connective.combine, Function.comp_def, eval]

/-- A list without terms changes neither a conjunction nor a disjunction. -/
theorem combine_filterMap_ofTerms (holds : Term → Bool) (c : Connective)
    (members : List (List Term)) :
    c.combine (eval holds) (members.filterMap (ofTerms c)) =
      c.combine (c.combine holds) members := by
  induction members with
  | nil => cases c <;> rfl
  | cons ts members ih =>
    cases ts with
    | nil =>
      have hnone : ofTerms c [] = none := rfl
      rw [List.filterMap_cons_none hnone, ih]
      cases c <;> simp [Connective.combine]
    | cons t ts =>
      have hsome : ofTerms c (t :: ts) = some (level c (term t) (ts.map term)) := rfl
      have hvalue := evalOf_ofTerms holds c (t :: ts)
      rw [hsome] at hvalue
      rw [List.filterMap_cons_some hsome]
      cases c <;> simp_all [Connective.combine, evalOf]

theorem evalOf_ofMembers (holds : Term → Bool) (c : Connective) (members : List (List Term)) :
    evalOf holds (ofMembers c members) =
      (members.all List.isEmpty || c.combine (c.combine holds) members) := by
  have hempty : (members.filterMap (ofTerms c)).isEmpty = members.all List.isEmpty := by
    induction members with
    | nil => rfl
    | cons ts members ih =>
      cases ts with
      | nil => simpa [ofTerms, level?] using ih
      | cons t ts => rfl
  rw [ofMembers, evalOf_ofGroups, hempty, combine_filterMap_ofTerms]

/-! Well-formed text is never blank, so that nothing that restricts is left out. -/

theorem isBlank_text {e : Expr} (he : e.WellFormed) : Text.isBlank e.text = false := by
  induction e with
  | term t =>
    obtain ⟨c, cs, hcons, hc⟩ := Term.WellFormed.exists_cons he
    have hsolid : Text.isBlankChar c = false := by
      cases hblank : Text.isBlankChar c with
      | false => rfl
      | true => simp [isWordChar, hblank] at hc
    simp [text, Text.isBlank, hcons, hsolid]
  | group e ih =>
    have hopen : Text.isBlank "(" = false := by decide
    simp [text, hopen]
  | join c item rest ihitem ihrest => simp [text, ihitem he.2.1]

theorem solid_textOf {e? : Option Expr} (h : ∀ e ∈ e?, e.WellFormed) :
    solid [textOf e?] = e?.toList.map text := by
  cases e? with
  | none => simp [solid, textOf]
  | some e => simp [solid, textOf, isBlank_text (h e rfl)]

theorem solid_ofTerms {c : Connective} {members : List (List Term)}
    (h : ∀ ts ∈ members, ∀ t ∈ ts, t.WellFormed) :
    solid (members.map fun ts => textOf (ofTerms c ts)) =
      (members.filterMap (ofTerms c)).map text := by
  induction members with
  | nil => rfl
  | cons ts members ih =>
    have hhead := solid_textOf (wellFormed_ofTerms (c := c) (h ts (by simp)))
    have htail := ih fun us hus => h us (List.mem_cons_of_mem _ hus)
    rw [List.map_cons, ← List.singleton_append, solid_append, hhead, htail]
    cases hts : ofTerms c ts <;> simp [hts]

theorem textOf_ofMembers {c : Connective} {members : List (List Term)}
    (h : ∀ ts ∈ members, ∀ t ∈ ts, t.WellFormed) :
    textOf (ofMembers c members) =
      joined c (solid (members.map fun ts => textOf (ofTerms c ts))) := by
  rw [ofMembers, textOf_ofGroups, solid_ofTerms h]

end Expr

namespace Predicate

theorem compilePairs_eq (p : Predicate) (c : Connective) :
    p.compilePairs c = Expr.textOf (Expr.ofTerms c p.equalities) := by
  rw [Expr.textOf_ofTerms, equalities, List.map_map]
  simp only [Function.comp_def, Term.text_equality]
  rfl

theorem compileRanges_eq (p : Predicate) (c : Comparison) :
    (p.adjust c).compileRanges c.bounds = Expr.textOf (Expr.ofTerms .and (p.comparisons c)) := by
  rw [compileRanges_adjust, Expr.textOf_ofTerms, comparisons, List.map_map]
  simp only [Function.comp_def, Term.text_compared]

theorem IsPlain.equalities {p : Predicate} (h : p.IsPlain) : ∀ t ∈ p.equalities, t.WellFormed := by
  intro t ht
  obtain ⟨e, he, rfl⟩ := List.mem_map.1 ht
  exact Term.wellFormed_equality (h e he).1 (h e he).2

theorem IsPlain.comparisons {p : Predicate} (h : p.IsPlain) (c : Comparison) :
    ∀ t ∈ p.comparisons c, t.WellFormed := by
  intro t ht
  obtain ⟨e, he, rfl⟩ := List.mem_map.1 ht
  exact Term.wellFormed_compared c (h e he).1 (h e he).2

end Predicate

/-- A selector stands for a truth value: its fragments are expressions, and they are all true
exactly if the value is. -/
def Means (selector : String) (value : (Term → Bool) → Bool) : Prop :=
  ∃ parts : List Expr, (∀ e ∈ parts, e.WellFormed) ∧
    selector = joined .and (parts.map Expr.text) ∧
    ∀ holds, value holds = parts.all (Expr.eval holds)

namespace Means

variable {selector : String} {value : (Term → Bool) → Bool}

theorem empty : Means "" fun _ => true :=
  ⟨[], by simp, (joined_nil .and).symm, fun _ => rfl⟩

/-- One restriction more, whose fragment is the text of an expression that may be absent. -/
theorem push (h : Means selector value) {fragment : String} {e? : Option Expr}
    {restriction : (Term → Bool) → Bool} (he : ∀ e ∈ e?, e.WellFormed)
    (hfragment : fragment = Expr.textOf e?)
    (heval : ∀ holds, restriction holds = Expr.evalOf holds e?) :
    Means (pushRestriction selector fragment .and) fun holds =>
      value holds && restriction holds := by
  obtain ⟨parts, hparts, htext, hvalue⟩ := h
  refine ⟨parts ++ e?.toList, ?_, ?_, ?_⟩
  · intro e hmem
    rcases List.mem_append.1 hmem with hold | hnew
    · exact hparts e hold
    · exact he e (Option.mem_toList.1 hnew)
  · rw [htext, pushRestriction_joined, hfragment, Expr.solid_textOf he, List.map_append]
  · intro holds
    have hlast : e?.toList.all (Expr.eval holds) = Expr.evalOf holds e? := by
      cases e? <;> simp [Expr.evalOf]
    rw [List.all_append, hlast, ← hvalue, ← heval]

theorem push_group (h : Means selector value) (c : Connective) {ps : List Predicate}
    {terms : Predicate → List Term} {compile : Predicate → String}
    {restriction : (Term → Bool) → Bool} (hterms : ∀ p ∈ ps, ∀ t ∈ terms p, t.WellFormed)
    (hcompile : ∀ p, compile p = Expr.textOf (Expr.ofTerms c (terms p)))
    (heval : ∀ holds, restriction holds =
      (ps.all (fun p => (terms p).isEmpty) || c.combine (fun p => c.combine holds (terms p)) ps)) :
    Means (pushGroup selector (ps.map compile) c) fun holds =>
      value holds && restriction holds := by
  have hmembers : ∀ ts ∈ ps.map terms, ∀ t ∈ ts, t.WellFormed := by
    intro ts hts
    obtain ⟨p, hp, rfl⟩ := List.mem_map.1 hts
    exact hterms p hp
  rw [pushGroup_eq]
  refine h.push (Expr.wellFormed_ofMembers (c := c) hmembers) ?_ fun holds => ?_
  · rw [Expr.textOf_ofMembers hmembers, List.map_map, funext hcompile]
    rfl
  · rw [heval, Expr.evalOf_ofMembers]
    cases c <;> simp [Connective.combine, Function.comp_def]

theorem expr (h : Means selector value) : ∃ e? : Option Expr, (∀ e ∈ e?, e.WellFormed) ∧
    Expr.textOf e? = selector ∧ ∀ holds, Expr.evalOf holds e? = value holds := by
  obtain ⟨parts, hparts, htext, hvalue⟩ := h
  refine ⟨Expr.ofGroups .and parts, Expr.wellFormed_ofGroups hparts, ?_, ?_⟩
  · rw [Expr.textOf_ofGroups, htext]
  · intro holds
    rw [Expr.evalOf_ofGroups, hvalue]
    cases parts <;> simp [Connective.combine]

end Means

/-- A chain of restrictions by predicates; the chain that is merged in was built the same way. -/
inductive Chain
  | empty
  | filter (before : Chain) (p : Predicate)
  | anyOf (before : Chain) (ps : List Predicate)
  | compare (before : Chain) (c : Comparison) (ps : List Predicate)
  | merge (before other : Chain)

namespace Chain

def query : Chain → SearchQuery
  | empty => {}
  | filter before p => before.query.filter (.fields p)
  | anyOf before ps => before.query.anyOf ps
  | compare before c ps => before.query.compare c ps
  | merge before other => before.query.merge other.query

def IsPlain : Chain → Prop
  | empty => True
  | filter before p => before.IsPlain ∧ p.IsPlain
  | anyOf before ps => before.IsPlain ∧ ∀ p ∈ ps, p.IsPlain
  | compare before _ ps => before.IsPlain ∧ ∀ p ∈ ps, p.IsPlain
  | merge before other => before.IsPlain ∧ other.IsPlain

instance decidableIsPlain : (chain : Chain) → Decidable chain.IsPlain
  | empty => isTrue trivial
  | filter before p =>
    have := decidableIsPlain before
    inferInstanceAs (Decidable (before.IsPlain ∧ p.IsPlain))
  | anyOf before ps | compare before _ ps =>
    have := decidableIsPlain before
    inferInstanceAs (Decidable (before.IsPlain ∧ ∀ p ∈ ps, p.IsPlain))
  | merge before other =>
    have := decidableIsPlain before
    have := decidableIsPlain other
    inferInstanceAs (Decidable (before.IsPlain ∧ other.IsPlain))

/-- What a chain asks for: every restriction has to hold. Alternatives of which none has a field
restrict nothing. -/
def value (holds : Term → Bool) : Chain → Bool
  | empty => true
  | filter before p => before.value holds && p.equalities.all holds
  | anyOf before ps =>
    before.value holds && (ps.all Predicate.isEmpty || ps.any fun p => p.equalities.any holds)
  | compare before c ps => before.value holds && ps.all fun p => (p.comparisons c).all holds
  | merge before other => before.value holds && other.value holds

/-- The invariant of a chain: every operation adds its own restriction. -/
theorem means (chain : Chain) (h : chain.IsPlain) :
    Means chain.query.selector fun holds => chain.value holds := by
  induction chain with
  | empty => exact Means.empty
  | filter before p ih =>
    have hterms := Expr.wellFormed_ofTerms (c := .and) h.2.equalities
    refine (ih h.1).push hterms (p.compilePairs_eq .and) fun holds => ?_
    rw [Expr.evalOf_ofTerms]
    cases p.equalities <;> rfl
  | anyOf before ps ih =>
    have hterms : ∀ p ∈ ps, ∀ t ∈ p.equalities, t.WellFormed := fun p hp => (h.2 p hp).equalities
    refine (ih h.1).push_group .or hterms (fun p => p.compilePairs_eq .or) fun holds => ?_
    have hempty : ∀ p : Predicate, p.equalities.isEmpty = p.isEmpty :=
      fun p => by simp [Predicate.equalities, Predicate.isEmpty]
    simp only [hempty]
    rfl
  | compare before c ps ih =>
    have hterms : ∀ p ∈ ps, ∀ t ∈ p.comparisons c, t.WellFormed :=
      fun p hp => (h.2 p hp).comparisons c
    refine (ih h.1).push_group .and hterms (fun p => p.compileRanges_eq c) fun holds => ?_
    -- Members without terms hold by themselves, so it does not matter that they are left out.
    cases hempty : ps.all fun p => (p.comparisons c).isEmpty with
    | false => rfl
    | true =>
      have hall : ∀ p ∈ ps, p.comparisons c = [] := by simpa using hempty
      rw [Bool.true_or, List.all_eq_true]
      intro p hp
      rw [hall p hp]
      rfl
  | merge before other ihbefore ihother =>
    obtain ⟨e?, he, htext, heval⟩ := (ihother h.2).expr
    exact (ihbefore h.1).push he htext.symm fun holds => (heval holds).symm

/-- The selector of a chain is empty, and then the chain asks for nothing; or the grammar accepts
it with one expression only, whose value is what the chain asks for. -/
theorem parse_selector (chain : Chain) (h : chain.IsPlain) :
    (chain.query.selector = "" ∧ ∀ holds, chain.value holds = true) ∨
    ∃ e : Expr, e.WellFormed ∧ e.text = chain.query.selector ∧
      (∀ e' : Expr, e'.WellFormed → e'.text = chain.query.selector → e' = e) ∧
      Expr.parse? chain.query.selector = some e ∧
      ∀ holds, e.eval holds = chain.value holds := by
  obtain ⟨e?, he, htext, heval⟩ := (chain.means h).expr
  cases e? with
  | none => exact Or.inl ⟨htext.symm, fun holds => (heval holds).symm⟩
  | some e =>
    have hread : Expr.parse? chain.query.selector = some e :=
      Expr.parse?_eq_some_iff.2 ⟨he e rfl, htext⟩
    refine Or.inr ⟨e, he e rfl, htext, ?_, hread, heval⟩
    intro e' he' htext'
    have hread' : Expr.parse? chain.query.selector = some e' :=
      Expr.parse?_eq_some_iff.2 ⟨he', htext'⟩
    exact Option.some.inj (hread'.symm.trans hread)

theorem parse_selector_merged :
    let inner := (empty.compare .below [⟨[("x", .int 5)]⟩]).filter ⟨[("name", .text "Joe")]⟩
    let chain :=
      ((empty.filter ⟨[("tags", .text "nerd"), ("age", .range (.int 3) .wildcard)]⟩).anyOf
        [⟨[("a", .int 1), ("b", .bool true)]⟩, ⟨[]⟩]).merge inner
    chain.IsPlain ∧
    chain.query.selector = "(tags:nerd AND age:[3 TO *]) AND ((a:1 OR b:true)) AND " ++
      "(((x:\x7b* TO 5\x7d)) AND (name:Joe))" ∧
    ∃ e : Expr, Expr.parse? chain.query.selector = some e ∧
      ∀ holds, e.eval holds = chain.value holds := by
  intro inner chain
  have hplain : chain.IsPlain := by decide +kernel
  have hselector : chain.query.selector =
      "(tags:nerd AND age:[3 TO *]) AND ((a:1 OR b:true)) AND " ++
        "(((x:\x7b* TO 5\x7d)) AND (name:Joe))" := by decide +kernel
  refine ⟨hplain, hselector, ?_⟩
  rcases parse_selector chain hplain with ⟨hempty, -⟩ | ⟨e, -, -, -, hread, heval⟩
  · exact absurd (hselector.symm.trans hempty) (by decide)
  · exact ⟨e, hread, heval⟩

end Chain

end SearchCriteria
