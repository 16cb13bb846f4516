import Mathlib.Data.List.Induction
import SearchCriteria.Query.SearchQuery

/-! The normal form of selectors. Separators are decided by looking at the text so far, and
fragments may be any text at all; still the fragments of a chain end up in parentheses, in call
order and with the connective between them, because whatever has been written ends in a
parenthesis that the chain itself wrote. -/
namespace SearchCriteria
namespace SearchQuery

def wrap (fragment : String) : String := "(" ++ fragment ++ ")"

def joined (c : Connective) (fragments : List String) : String :=
  c.separator.intercalate (fragments.map wrap)

/-- The fragments that restrict something. -/
def solid (fragments : List String) : List String := fragments.filter fun f => !Text.isBlank f

@[simp] theorem joined_nil (c : Connective) : joined c [] = "" := by simp [joined]

theorem joined_concat (c : Connective) (fs : List String) (f : String) :
    joined c (fs ++ [f]) = joined c fs ++ (if fs = [] then "" else c.separator) ++ wrap f := by
  by_cases h : fs = []
  · simp [joined, h]
  · have hmap : fs.map wrap ≠ [] := by simpa using h
    simp [joined, h, String.intercalate_append_of_ne_nil hmap]

/-- Unless there are no fragments, the text begins and ends with a parenthesis of its own. -/
theorem joined_eq_wrap (c : Connective) {fs : List String} (h : fs ≠ []) :
    ∃ inner, joined c fs = wrap inner := by
  induction fs using List.reverseRecOn with
  | nil => exact absurd rfl h
  | append_singleton fs f ih =>
    by_cases hfs : fs = []
    · exact ⟨f, by simp [joined, hfs]⟩
    · obtain ⟨inner, hinner⟩ := ih hfs
      refine ⟨inner ++ ")" ++ c.separator ++ "(" ++ f, ?_⟩
      rw [joined_concat, hinner, if_neg hfs]
      simp [wrap, String.append_assoc]

theorem pushRestriction_blank {f : String} (h : Text.isBlank f = true) (s : String)
    (c : Connective) : pushRestriction s f c = s := by
  simp [pushRestriction, h]

theorem pushRestriction_solid {f : String} (h : Text.isBlank f = false) (s : String)
    (c : Connective) : pushRestriction s f c = s ++ joint s c ++ wrap f := by
  simp [pushRestriction, h, wrap, String.append_assoc]

theorem joint_empty (c : Connective) : joint "" c = "" := by
  simp [joint]

theorem joint_open (s : String) (c : Connective) : joint (s ++ "(") c = "" := by
  have h : endsOpen (s ++ "(") = true := by simp [endsOpen]
  simp [joint, h]

theorem joint_closed (s : String) (c : Connective) : joint (s ++ ")") c = c.separator := by
  have hopen : endsOpen (s ++ ")") = false := by simp [endsOpen]
  have hblank : Text.isBlank (s ++ ")") = false := by
    have hclose : Text.isBlank ")" = false := by decide
    simp [hclose]
  simp [joint, hopen, hblank]

/-- Between what stands there and the next fragment goes the connective, but for the first. -/
theorem joint_append_joined (s : String) (hs : ∀ c, joint s c = "") (c : Connective)
    (fs : List String) :
    joint (s ++ joined c fs) c = if fs = [] then "" else c.separator := by
  by_cases h : fs = []
  · simp [h, hs]
  · obtain ⟨inner, hinner⟩ := joined_eq_wrap c h
    rw [hinner, wrap, if_neg h, ← String.append_assoc]
    exact joint_closed _ c

theorem joint_joined (c : Connective) (fs : List String) :
    joint (joined c fs) c = if fs = [] then "" else c.separator := by
  have h := joint_append_joined "" joint_empty c fs
  rwa [String.empty_append] at h

theorem pushRestriction_append_joined (s : String) (hs : ∀ c, joint s c = "") (c : Connective)
    (fs : List String) (f : String) :
    pushRestriction (s ++ joined c fs) f c = s ++ joined c (fs ++ solid [f]) := by
  cases hf : Text.isBlank f with
  | true => simp [pushRestriction_blank hf, solid, hf]
  | false =>
    have hsolid : solid [f] = [f] := by simp [solid, hf]
    rw [pushRestriction_solid hf, joint_append_joined s hs, hsolid, joined_concat]
    simp [String.append_assoc]

theorem pushRestriction_joined (c : Connective) (fs : List String) (f : String) :
    pushRestriction (joined c fs) f c = joined c (fs ++ solid [f]) := by
  have h := pushRestriction_append_joined "" joint_empty c fs f
  rwa [String.empty_append, String.empty_append] at h

theorem solid_append (fs gs : List String) : solid (fs ++ gs) = solid fs ++ solid gs :=
  List.filter_append ..

/-- The group loop, when some fragments of the group are written and others are to come. -/
theorem foldl_pushRestriction (s : String) (hs : ∀ c, joint s c = "") (c : Connective)
    (written rest : List String) :
    rest.foldl (fun t f => pushRestriction t f c) (s ++ joined c written) =
      s ++ joined c (written ++ solid rest) := by
  induction rest generalizing written with
  | nil => simp [solid]
  | cons f rest ih =>
    rw [List.foldl_cons, pushRestriction_append_joined s hs, ih]
    rw [← List.singleton_append (x := f) (l := rest), solid_append, List.append_assoc]

theorem solid_solid (fs : List String) : solid (solid fs) = solid fs := by
  simp [solid]

theorem isBlank_joined (c : Connective) (fs : List String) :
    Text.isBlank (joined c fs) = fs.isEmpty := by
  by_cases h : fs = []
  · simp [h]
  · obtain ⟨inner, hinner⟩ := joined_eq_wrap c h
    have hopen : Text.isBlank "(" = false := by decide
    simp [hinner, wrap, hopen, h]

/-- A group is one restriction whose fragment is the joined members of the group. -/
theorem pushGroup_eq (s : String) (fragments : List String) (inner : Connective) :
    pushGroup s fragments inner = pushRestriction s (joined inner (solid fragments)) .and := by
  have hdef : pushGroup s fragments inner =
      if (solid fragments).isEmpty then s
      else
        (solid fragments).foldl (fun t f => pushRestriction t f inner)
          (s ++ joint s .and ++ "(") ++ ")" := rfl
  have hloop := foldl_pushRestriction (s ++ joint s .and ++ "(") (joint_open _) inner []
    (solid fragments)
  rw [joined_nil, String.append_empty, solid_solid, List.nil_append] at hloop
  rw [hdef, hloop]
  by_cases h : solid fragments = []
  · simp [h, pushRestriction_blank]
  · have hblank : Text.isBlank (joined inner (solid fragments)) = false := by
      simp [isBlank_joined, h]
    rw [pushRestriction_solid hblank, if_neg (by simpa using h)]
    simp [wrap, String.append_assoc]

end SearchQuery

/-- What an operation contributes to a selector; it contributes nothing if this is blank. -/
def Operation.fragment : Operation → String
  | .filter clause => clause.compile
  | .anyOf ps => SearchQuery.joined .or (SearchQuery.solid (ps.map fun p => p.compilePairs .or))
  | .compare c ps =>
    SearchQuery.joined .and
      (SearchQuery.solid (ps.map fun p => (p.adjust c).compileRanges c.bounds))
  | .merge other => other.selector
  | .sort _ => ""
  | .limit _ => ""
  | .skip _ => ""

namespace SearchQuery

def contributions (ops : List Operation) : List String := solid (ops.map Operation.fragment)

theorem selector_apply (q : SearchQuery) (op : Operation) :
    (q.apply op).selector = pushRestriction q.selector op.fragment .and := by
  cases op with
  | filter clause => rfl
  | anyOf ps => exact pushGroup_eq ..
  | compare c ps => exact pushGroup_eq ..
  | merge other => rfl
  | sort spec => exact (pushRestriction_blank Text.isBlank_empty ..).symm
  | limit rows => exact (pushRestriction_blank Text.isBlank_empty ..).symm
  | skip start => exact (pushRestriction_blank Text.isBlank_empty ..).symm

theorem isBlank_apply {q : SearchQuery} (h : q.isBlank = false) (op : Operation) :
    (q.apply op).isBlank = false := by
  have hselector : Text.isBlank q.selector = false := h
  rw [isBlank, selector_apply]
  cases hf : Text.isBlank op.fragment with
  | true => rw [pushRestriction_blank hf, hselector]
  | false => simp [pushRestriction_solid hf, hselector]

theorem contributions_cons (op : Operation) (ops : List Operation) :
    contributions (op :: ops) = solid [op.fragment] ++ contributions ops :=
  solid_append [op.fragment] (ops.map Operation.fragment)

/-- The invariant of a chain: its selector is the joined fragments so far. -/
theorem selector_applyAll_of_joined {q : SearchQuery} {fs : List String}
    (hq : q.selector = joined .and fs) (ops : List Operation) :
    (q.applyAll ops).selector = joined .and (fs ++ contributions ops) := by
  induction ops generalizing q fs with
  | nil => simpa [contributions, solid] using hq
  | cons op ops ih =>
    have happly : (q.apply op).selector = joined .and (fs ++ solid [op.fragment]) := by
      rw [selector_apply, hq, pushRestriction_joined]
    rw [applyAll_cons, ih happly, contributions_cons, List.append_assoc]

theorem selector_applyAll (ops : List Operation) :
    (({} : SearchQuery).applyAll ops).selector = joined .and (contributions ops) := by
  have h : (({} : SearchQuery).applyAll ops).selector = joined .and ([] ++ contributions ops) :=
    selector_applyAll_of_joined (joined_nil .and).symm ops
  rw [h, List.nil_append]

theorem prefix_selector_apply (q : SearchQuery) (op : Operation) :
    q.selector.toList <+: (q.apply op).selector.toList := by
  rw [selector_apply]
  cases h : Text.isBlank op.fragment with
  | true => simp [pushRestriction_blank h]
  | false =>
    rw [pushRestriction_solid h, String.append_assoc, String.toList_append]
    exact List.prefix_append ..

theorem prefix_selector_applyAll (q : SearchQuery) (ops : List Operation) :
    q.selector.toList <+: (q.applyAll ops).selector.toList := by
  induction ops generalizing q with
  | nil => exact List.prefix_rfl
  | cons op ops ih => exact (prefix_selector_apply q op).trans (ih (q.apply op))

theorem fragment_eq (op : Operation) :
    op.fragment =
      match op with
      | .filter (.raw text) => text
      | .filter (.fields p) =>
        " AND ".intercalate (p.fields.map fun e => Predicate.pairTerm e.1 e.2)
      | .anyOf ps => joined .or (solid (ps.map fun p =>
          " OR ".intercalate (p.fields.map fun e => Predicate.pairTerm e.1 e.2)))
      | .compare c ps => joined .and (solid (ps.map fun p =>
          " AND ".intercalate (p.fields.map fun e =>
            Predicate.boundedTerm c.bounds e.1 (c.adjust e.2))))
      | .merge other => other.selector
      | .sort _ | .limit _ | .skip _ => "" := by
  rcases op with (text | p) | ps | ⟨c, ps⟩ | spec | rows | start | other
  case compare =>
    simp only [Operation.fragment, Predicate.compileRanges_adjust]
    rfl
  all_goals rfl

/-- A selector is what the operations contribute, in parentheses and joined by AND, without what is
blank. It only grows, and no operator comes before the first fragment. -/
theorem selector_normal_form (ops : List Operation) :
    let q := ({} : SearchQuery).applyAll ops
    let inParentheses (fragments : List String) : List String :=
      (fragments.filter fun f => !Text.isBlank f).map fun f => "(" ++ f ++ ")"
    q.selector = " AND ".intercalate (inParentheses (ops.map Operation.fragment)) ∧
    (∀ op : Operation, op.fragment =
      match op with
      | .filter (.raw text) => text
      | .filter (.fields p) =>
        " AND ".intercalate (p.fields.map fun e => Predicate.pairTerm e.1 e.2)
      | .anyOf ps => " OR ".intercalate (inParentheses (ps.map fun p =>
          " OR ".intercalate (p.fields.map fun e => Predicate.pairTerm e.1 e.2)))
      | .compare c ps => " AND ".intercalate (inParentheses (ps.map fun p =>
          " AND ".intercalate (p.fields.map fun e =>
            Predicate.boundedTerm c.bounds e.1 (c.adjust e.2))))
      | .merge other => other.selector
      | .sort _ | .limit _ | .skip _ => "") ∧
    (contributions ops = (ops.map Operation.fragment).filter fun f => !Text.isBlank f) ∧
    (q.selector = "" ∨ ∃ inner, q.selector = "(" ++ inner ++ ")") ∧
    (q.isBlank = true ↔ contributions ops = []) ∧
    (∀ earlier later, ops = earlier ++ later →
      (({} : SearchQuery).applyAll earlier).selector.toList <+: q.selector.toList) ∧
    (∀ op, (q.apply op).selector =
      if Text.isBlank op.fragment then q.selector
      else if contributions ops = [] then "(" ++ op.fragment ++ ")"
      else q.selector ++ " AND (" ++ op.fragment ++ ")") := by
  intro q inParentheses
  have hq : q.selector = joined .and (contributions ops) := selector_applyAll ops
  refine ⟨hq, fragment_eq, rfl, ?_, ?_, ?_, ?_⟩
  · by_cases h : contributions ops = []
    · left; rw [hq, h, joined_nil]
    · right; rw [hq]; exact joined_eq_wrap .and h
  · have hblank : q.isBlank = (contributions ops).isEmpty := by
      rw [isBlank, hq, isBlank_joined]
    rw [hblank, List.isEmpty_iff]
  · rintro earlier later rfl
    have hsplit : q = (({} : SearchQuery).applyAll earlier).applyAll later := List.foldl_append
    rw [hsplit]
    exact prefix_selector_applyAll _ later
  · intro op
    have hjoint : joint q.selector .and = if contributions ops = [] then "" else " AND " := by
      rw [hq, joint_joined]
      rfl
    rw [selector_apply]
    cases hf : Text.isBlank op.fragment with
    | true => rw [pushRestriction_blank hf, if_pos rfl]
    | false =>
      rw [pushRestriction_solid hf, hjoint]
      by_cases h : contributions ops = []
      · simp [h, hq, wrap]
      · have hand : (" AND (" : String) = " AND " ++ "(" := rfl
        simp only [h, if_false, wrap, hand, Bool.false_eq_true, String.append_assoc]

/-- Raw text that closes and opens parentheses, blank parts, a group, and a merge behind it. -/
theorem selector_normal_form_hostile :
    let ops : List Operation := [.filter (.raw "a:1) OR ("), .filter (.raw " "), .limit 3,
      .anyOf [⟨[]⟩, ⟨[("b", .int 1), ("c", .text "x (")]⟩], .merge { selector := "(" }]
    let q := ({} : SearchQuery).applyAll ops
    q.selector = "(a:1) OR () AND ((b:1 OR c:x ()) AND (()" ∧ q.isBlank = false ∧
    (q.apply (.filter (.fields ⟨[("d", .bool true)]⟩))).selector =
      q.selector ++ " AND (d:true)" := by
  intro ops q
  obtain ⟨hselector, hfragment, -, -, hblank, -, happly⟩ := selector_normal_form ops
  have hsome : contributions ops ≠ [] := by decide +kernel
  refine ⟨hselector.trans (by decide +kernel), ?_, ?_⟩
  · rw [Bool.eq_false_iff, ne_eq, hblank]
    exact hsome
  · rw [happly, hfragment, if_neg hsome]
    rfl

end SearchQuery
end SearchCriteria
