import Mathlib.Data.List.Infix
import SearchCriteria.Text.Blank

/-! The depth of parentheses along a text, texts that are balanced, and the cutting of a text at
each return to depth 0. Inside a balanced text the depth never comes below its start, so that in
parentheses it returns to depth 0 at the last character only. -/
namespace SearchCriteria
namespace Text

def tilt (c : Char) : Int := if c = '(' then 1 else if c = ')' then -1 else 0

def netDepth : List Char → Int
  | [] => 0
  | c :: cs => tilt c + netDepth cs

/-- No beginning closes more than it opens, and at the end everything is closed. -/
structure Balanced (cs : List Char) : Prop where
  nonneg : ∀ before, before <+: cs → 0 ≤ netDepth before
  net : netDepth cs = 0

instance (cs : List Char) : Decidable (Balanced cs) :=
  decidable_of_iff ((∀ before ∈ cs.inits, 0 ≤ netDepth before) ∧ netDepth cs = 0)
    ⟨fun h => ⟨fun before hbefore => h.1 before ((List.mem_inits before cs).2 hbefore), h.2⟩,
      fun h =>
        ⟨fun before hbefore => h.nonneg before ((List.mem_inits before cs).1 hbefore), h.net⟩⟩

@[simp] theorem tilt_opening : tilt '(' = 1 := rfl
@[simp] theorem tilt_closing : tilt ')' = -1 := rfl

theorem tilt_of_isBlankChar {c : Char} (h : isBlankChar c = true) : tilt c = 0 := by
  have hopening : c ≠ '(' := by rintro rfl; revert h; decide
  have hclosing : c ≠ ')' := by rintro rfl; revert h; decide
  simp [tilt, hopening, hclosing]

@[simp] theorem netDepth_nil : netDepth [] = 0 := rfl
@[simp] theorem netDepth_cons (c : Char) (cs : List Char) :
    netDepth (c :: cs) = tilt c + netDepth cs := rfl

@[simp] theorem netDepth_append (xs ys : List Char) :
    netDepth (xs ++ ys) = netDepth xs + netDepth ys := by
  induction xs with
  | nil => simp
  | cons c xs ih => simp [ih, Int.add_assoc]

theorem netDepth_of_flat {cs : List Char} (h : ∀ c ∈ cs, tilt c = 0) : netDepth cs = 0 := by
  induction cs with
  | nil => rfl
  | cons c cs ih =>
    obtain ⟨hc, hcs⟩ := List.forall_mem_cons.1 h
    rw [netDepth_cons, hc, ih hcs, Int.add_zero]

theorem netDepth_of_isBlank {s : String} (h : isBlank s = true) : netDepth s.toList = 0 :=
  netDepth_of_flat fun c hc => tilt_of_isBlankChar (List.all_eq_true.1 h c hc)

namespace Balanced

theorem nil : Balanced [] := by decide

theorem append {xs ys : List Char} (hx : Balanced xs) (hy : Balanced ys) : Balanced (xs ++ ys) := by
  refine ⟨fun before hbefore => ?_, by rw [netDepth_append, hx.net, hy.net, Int.add_zero]⟩
  rcases List.prefix_or_prefix_of_prefix hbefore (List.prefix_append xs ys) with h | ⟨rest, rfl⟩
  · exact hx.nonneg before h
  · rw [netDepth_append, hx.net, Int.zero_add]
    exact hy.nonneg rest ((List.prefix_append_right_inj xs).1 hbefore)

theorem of_flat {cs : List Char} (h : ∀ c ∈ cs, tilt c = 0) : Balanced cs where
  nonneg before hbefore := by
    have hflat : ∀ c ∈ before, tilt c = 0 := fun c hc => h c (hbefore.mem hc)
    exact Int.le_of_eq (netDepth_of_flat hflat).symm
  net := netDepth_of_flat h

theorem pos_of_closing {before after : List Char} (h : Balanced (before ++ ')' :: after)) :
    0 < netDepth before := by
  have hclosed : 0 ≤ netDepth (before ++ [')']) := h.nonneg _ ⟨after, by simp⟩
  rw [netDepth_append, netDepth_cons, netDepth_nil, tilt_closing] at hclosed
  omega

theorem parenthesized {cs : List Char} (h : Balanced cs) : Balanced ('(' :: cs ++ [')']) := by
  refine ⟨fun before hbefore => ?_, by simp [h.net]⟩
  rcases List.prefix_concat_iff.1 hbefore with rfl | hshort
  · simp [h.net]
  · rcases List.prefix_cons_iff.1 hshort with rfl | ⟨inner, rfl, hinner⟩
    · simp
    · have hnonneg := h.nonneg inner hinner
      rw [netDepth_cons, tilt_opening]
      omega

end Balanced

/-- The pieces of a text that end where the depth returns to 0, and what follows the last of them.
Of the next piece, `piece` has been read. -/
def cuts (depth : Int) (piece : List Char) : List Char → List (List Char) × List Char
  | [] => ([], piece)
  | c :: cs =>
    if c = ')' ∧ depth = 1 then
      ((piece ++ [c]) :: (cuts 0 [] cs).1, (cuts 0 [] cs).2)
    else cuts (depth + tilt c) (piece ++ [c]) cs

theorem cuts_closing (piece cs : List Char) :
    cuts 1 piece (')' :: cs) = ((piece ++ [')']) :: (cuts 0 [] cs).1, (cuts 0 [] cs).2) := by
  simp [cuts]

theorem cuts_cons {depth : Int} {c : Char} (h : ¬ (c = ')' ∧ depth = 1)) (piece cs : List Char) :
    cuts depth piece (c :: cs) = cuts (depth + tilt c) (piece ++ [c]) cs := by
  rw [cuts, if_neg h]

/-- Where one text follows another, its cutting goes on with the depth and the piece that the
other left. -/
theorem cuts_append (depth : Int) (piece xs ys : List Char) :
    cuts depth piece (xs ++ ys) =
      ((cuts depth piece xs).1 ++ (cuts (depth + netDepth xs) (cuts depth piece xs).2 ys).1,
        (cuts (depth + netDepth xs) (cuts depth piece xs).2 ys).2) := by
  induction xs generalizing depth piece with
  | nil => simp [cuts]
  | cons c xs ih =>
    by_cases h : c = ')' ∧ depth = 1
    · obtain ⟨rfl, rfl⟩ := h
      rw [List.cons_append, cuts_closing, cuts_closing, ih, netDepth_cons, tilt_closing,
        ← Int.add_assoc]
      rfl
    · rw [List.cons_append, cuts_cons h, cuts_cons h, ih, netDepth_cons, Int.add_assoc]

theorem flatten_cuts (depth : Int) (piece cs : List Char) :
    (cuts depth piece cs).1.flatten ++ (cuts depth piece cs).2 = piece ++ cs := by
  induction cs generalizing depth piece with
  | nil => simp [cuts]
  | cons c cs ih =>
    by_cases h : c = ')' ∧ depth = 1
    · obtain ⟨rfl, rfl⟩ := h
      rw [cuts_closing, List.flatten_cons, List.append_assoc, ih]
      simp
    · rw [cuts_cons h, ih]
      simp

theorem cuts_whole {depth : Int} {cs : List Char}
    (h : ∀ before after, cs = before ++ ')' :: after → depth + netDepth before ≠ 1)
    (piece : List Char) : cuts depth piece cs = ([], piece ++ cs) := by
  induction cs generalizing depth piece with
  | nil => simp [cuts]
  | cons c cs ih =>
    have hstay : ¬ (c = ')' ∧ depth = 1) := by
      rintro ⟨rfl, rfl⟩
      exact h [] cs rfl rfl
    have hrest : ∀ before after, cs = before ++ ')' :: after →
        depth + tilt c + netDepth before ≠ 1 := by
      rintro before after rfl
      have hc := h (c :: before) after rfl
      rwa [netDepth_cons, ← Int.add_assoc] at hc
    rw [cuts_cons hstay, ih hrest]
    simp

theorem cuts_parenthesized {inner : List Char} (h : Balanced inner) (piece rest : List Char) :
    cuts 0 piece ('(' :: inner ++ ')' :: rest) =
      ((piece ++ ('(' :: inner ++ [')'])) :: (cuts 0 [] rest).1, (cuts 0 [] rest).2) := by
  have hwhole : cuts 0 piece ('(' :: inner) = ([], piece ++ '(' :: inner) := by
    refine cuts_whole (fun before after hsplit => ?_) piece
    cases before with
    | nil => cases hsplit
    | cons c before =>
      obtain ⟨rfl, rfl⟩ := List.cons.inj hsplit
      have hpos := h.pos_of_closing
      rw [netDepth_cons, tilt_opening]
      omega
  have hdepth : (0 : Int) + netDepth ('(' :: inner) = 1 := by simp [h.net]
  rw [cuts_append, hwhole, hdepth, cuts_closing]
  simp

/-- Where the depth returns to 0 a piece ends, and the later pieces are what follows. -/
theorem cuts_return {before after : List Char} (h : netDepth before = 1) {first : List Char}
    {later : List (List Char)}
    (hcuts : cuts 0 [] (before ++ ')' :: after) = (first :: later, [])) :
    ∃ suffix, suffix <:+ later ∧ after = suffix.flatten := by
  have hdepth : (0 : Int) + netDepth before = 1 := by rw [h, Int.zero_add]
  rw [cuts_append, hdepth, cuts_closing] at hcuts
  obtain ⟨hpieces, hrest⟩ := Prod.mk.inj hcuts
  refine ⟨(cuts 0 [] after).1, ?_, ?_⟩
  · cases hclosed : (cuts 0 [] before).1 with
    | nil =>
      rw [hclosed] at hpieces
      exact ⟨[], (List.cons.inj hpieces).2⟩
    | cons piece closed =>
      rw [hclosed] at hpieces
      exact ⟨closed ++ [(cuts 0 [] before).2 ++ [')']], by
        rw [← (List.cons.inj hpieces).2, List.append_assoc]; rfl⟩
  · have hall := flatten_cuts 0 [] after
    rw [hrest, List.append_nil, List.nil_append] at hall
    exact hall.symm

theorem cuts_flat {cs : List Char} (h : ∀ c ∈ cs, tilt c = 0) (piece rest : List Char) :
    cuts 0 piece (cs ++ rest) = cuts 0 (piece ++ cs) rest := by
  have hwhole : cuts 0 piece cs = ([], piece ++ cs) := by
    refine cuts_whole (fun before after hsplit => ?_) piece
    have hclosing : tilt ')' = 0 := h ')' (by simp [hsplit])
    exact absurd hclosing (by decide)
  rw [cuts_append, hwhole, (Balanced.of_flat h).net]
  simp

end Text
end SearchCriteria
