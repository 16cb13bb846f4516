import SearchCriteria.Query.SearchQuery

/-! The text of an order: clauses with a comma and a blank between them. An empty clause leaves its
place only at the head, where the next clause takes it. Clauses without that separator are read back
from the text. -/
namespace SearchCriteria
namespace QueryOptions

/-- The order that clauses make when they are pushed one after another. -/
def ordered (clauses : List String) : Option String :=
  if clauses = [] then none
  else some (", ".intercalate (clauses.dropWhile fun c => c == ""))

@[simp] theorem ordered_singleton (s : String) : ordered [s] = some s := by
  by_cases hs : s = ""
  · simp [ordered, hs]
  · simp [ordered, hs]

theorem ordered_eq_none_iff {clauses : List String} : ordered clauses = none ↔ clauses = [] := by
  simp [ordered]

theorem ordered_eq_intercalate {clauses : List String} (hne : clauses ≠ [])
    (h : ∀ c ∈ clauses, c ≠ "") : ordered clauses = some (", ".intercalate clauses) := by
  obtain ⟨c, cs, rfl⟩ := List.exists_cons_of_ne_nil hne
  have hc : c ≠ "" := h c List.mem_cons_self
  rw [ordered, if_neg hne, List.dropWhile_cons_of_neg (by simpa using hc)]

theorem intercalate_cons_ne_empty {c : String} (hc : c ≠ "") (cs : List String) :
    ", ".intercalate (c :: cs) ≠ "" := by
  cases cs with
  | nil => rwa [String.intercalate_singleton]
  | cons d ds => simp [String.intercalate_cons_cons, String.append_eq_empty_iff]

/-- A clause that is pushed stands at the end, or for all if there were only empty ones. -/
theorem pushSort_ordered {o : QueryOptions} {clauses : List String}
    (h : o.sort = ordered clauses) (c : String) :
    (o.pushSort c).sort = ordered (clauses ++ [c]) := by
  have hnew : clauses ++ [c] ≠ [] := by simp
  rw [ordered, if_neg hnew, List.dropWhile_append]
  cases hrest : clauses.dropWhile fun c => c == "" with
  | nil =>
    have hsort : o.sort = none ∨ o.sort = some "" := by
      rw [h, ordered, hrest]
      split <;> simp
    have hlast : some (", ".intercalate ([c].dropWhile fun c => c == "")) = some c :=
      ordered_singleton c
    rw [List.isEmpty_nil, if_pos rfl, hlast]
    obtain hsort | hsort := hsort <;> rw [pushSort, hsort]
    · rfl
  | cons d ds =>
    have hclauses : clauses ≠ [] := by
      rintro rfl
      cases hrest
    have hd : d ≠ "" := by
      have hfirst := List.head?_dropWhile_not (fun c => c == "") clauses
      rw [hrest, List.head?_cons] at hfirst
      simpa using hfirst
    have hsort : o.sort = some (", ".intercalate (d :: ds)) := by
      rw [h, ordered, if_neg hclauses, hrest]
    have hjoined : ", ".intercalate (d :: ds ++ [c]) =
        ", ".intercalate (d :: ds) ++ ", " ++ c := by
      rw [String.intercalate_append_of_ne_nil (List.cons_ne_nil d ds) (List.cons_ne_nil c []),
        String.intercalate_singleton]
    rw [List.isEmpty_cons, if_neg Bool.false_ne_true, hjoined, pushSort, hsort]
    simp only [if_neg (intercalate_cons_ne_empty hd ds)]

theorem foldl_pushSort_ordered {o : QueryOptions} {clauses : List String}
    (h : o.sort = ordered clauses) (cs : List String) :
    (cs.foldl pushSort o).sort = ordered (clauses ++ cs) := by
  induction cs generalizing o clauses with
  | nil => rw [List.append_nil]; exact h
  | cons c cs ih => rw [List.foldl_cons, ih (pushSort_ordered h c), List.append_assoc]; rfl

theorem pushSort_eq (o : QueryOptions) (c : String) :
    ∃ s, o.pushSort c = { o with sort := some s } := by
  unfold pushSort
  repeat' split
  all_goals exact ⟨_, rfl⟩

theorem foldl_pushSort_eq (o : QueryOptions) (cs : List String) :
    ∃ s, cs.foldl pushSort o = { o with sort := s } := by
  induction cs generalizing o with
  | nil => exact ⟨o.sort, rfl⟩
  | cons c cs ih =>
    obtain ⟨first, hfirst⟩ := pushSort_eq o c
    rw [List.foldl_cons, hfirst]
    exact ih { o with sort := some first }

/-! Reading clauses back. -/

open String String.Slice String.Slice.Pattern String.Slice.Pattern.Model

/-- In a clause that lacks the separator none begins, not even one that ends behind the clause, if
what follows does not begin with a blank. -/
theorem not_separator_append {x y rest : List Char} (hy : y ≠ [])
    (hclean : ¬ ", ".toList <:+: x ++ y) (hrest : rest.head? ≠ some ' ') (after : List Char) :
    y ++ rest ≠ ", ".toList ++ after := by
  intro heq
  have hsep : ", ".toList = [',', ' '] := by decide
  rw [hsep] at heq hclean
  match y, hy with
  | [c], _ =>
    simp only [List.cons_append, List.nil_append, List.cons.injEq] at heq
    rw [heq.2] at hrest
    exact hrest rfl
  | c :: d :: ds, _ =>
    simp only [List.cons_append, List.nil_append, List.cons.injEq] at heq
    obtain ⟨rfl, rfl, -⟩ := heq
    exact hclean ⟨x, ds, by simp⟩

theorem not_matchesAt_clause {s : Slice} {pos stop p : s.Pos} {t c rest : String}
    (hstop : stop.Splits (t ++ c) rest) (hpos : pos.Splits t (c ++ rest))
    (hclean : ¬ ", ".toList <:+: c.toList) (hrest : rest.toList.head? ≠ some ' ')
    (hp₁ : pos ≤ p) (hp₂ : p < stop) : ¬ MatchesAt ", " p := by
  rw [ForwardStringSearcher.matchesAt_iff_splits]
  rintro ⟨u, after, hp⟩
  obtain ⟨x, rfl, hx⟩ := (hpos.le_iff_exists_eq_append hp).1 hp₁
  obtain ⟨y, hy, hc, hafter⟩ := (hp.lt_iff_exists_eq_append hstop).1 hp₂
  rw [String.append_assoc, String.append_right_inj] at hc
  subst hc
  have hnone : y.toList ++ rest.toList ≠ ", ".toList ++ after.toList :=
    not_separator_append (by simpa using hy) (by rwa [← String.toList_append]) hrest after.toList
  exact hnone (by rw [← String.toList_append, ← String.toList_append, hafter])

theorem split_clauses {s : Slice} [StrictPatternModel ", "] {clauses : List String}
    (hne : clauses ≠ []) (hclean : ∀ c ∈ clauses, ¬ ", ".toList <:+: c.toList) {pos : s.Pos}
    {t : String} (hpos : pos.Splits t (", ".intercalate clauses)) :
    (Model.split ", " pos pos (Std.le_refl pos)).map (copy ∘ Subslice.toSlice) = clauses := by
  induction clauses generalizing pos t with
  | nil => exact absurd rfl hne
  | cons c cs ih =>
    have hc : ¬ ", ".toList <:+: c.toList := hclean c List.mem_cons_self
    by_cases hcs : cs = []
    · subst hcs
      rw [String.intercalate_singleton, ← String.append_empty (s := c)] at hpos
      have hend : s.endPos.Splits (t ++ c) "" := by
        have h := s.splits_endPos
        rwa [hpos.eq_append, String.append_empty] at h
      have hnone : Model.split ", " pos pos (Std.le_refl pos) =
          Model.split ", " pos s.endPos (by simp) :=
        split_eq_of_not_matchesAt s.endPos (by simp) fun p hp₁ hp₂ =>
          not_matchesAt_clause hend hpos hc (by simp) hp₁ hp₂
      rw [hnone, split_endPos, List.map_singleton]
      obtain ⟨hle, hcopy⟩ := copy_slice_eq_iff_splits.2 ⟨t, "", hpos, hend⟩
      simpa using hcopy
    · rw [String.intercalate_cons_of_ne_nil hcs, String.append_assoc] at hpos
      have hstop := hpos.splits_rotateRight
      have hnext := hstop.splits_rotateRight
      have hle := (hpos.le_iff_exists_eq_append hstop).2 ⟨c, rfl, rfl⟩
      have hmatch : IsLongestMatchAt ", " hpos.rotateRight hstop.rotateRight :=
        ForwardStringSearcher.isLongestMatchAt_iff_splits.2 ⟨_, _, hstop, hnext⟩
      have hnone : Model.split ", " pos pos (Std.le_refl pos) =
          Model.split ", " pos hpos.rotateRight hle :=
        split_eq_of_not_matchesAt hpos.rotateRight hle fun p hp₁ hp₂ =>
          not_matchesAt_clause hstop hpos hc (by simp) hp₁ hp₂
      rw [hnone, split_eq_of_isLongestMatchAt hmatch, List.map_cons,
        ih hcs (fun d hd => hclean d (List.mem_cons_of_mem c hd)) hnext]
      obtain ⟨_, hcopy⟩ := copy_slice_eq_iff_splits.2 ⟨t, _, hpos, hstop⟩
      simpa using hcopy

/-- Clauses that do not have the separator in them are what their text is split into. -/
theorem split_intercalate {clauses : List String} (hne : clauses ≠ [])
    (hclean : ∀ c ∈ clauses, c.contains ", " = false) :
    ((", ".intercalate clauses).split ", ").toList.map Slice.copy = clauses := by
  have hsep : ", " ≠ "" := by decide
  have hstrict := ForwardStringSearcher.strictPatternModel hsep
  have hlawful := ForwardStringSearcher.lawfulToForwardSearcherModel hsep
  have hstart := (", ".intercalate clauses).toSlice.splits_startPos
  rw [copy_toSlice] at hstart
  have hwithout : ∀ c ∈ clauses, ¬ ", ".toList <:+: c.toList := fun c hc =>
    String.contains_string_eq_false_iff.1 (hclean c hc)
  rw [split_eq_split_toSlice, toList_split_eq_splitToSubslice, List.map_map,
    toList_splitToSubslice_eq_modelSplit]
  exact split_clauses hne hwithout hstart

end QueryOptions
end SearchCriteria
