import SearchCriteria.Proofs.Selector.Depth
import SearchCriteria.Proofs.Selector.NormalForm
import SearchCriteria.Text.Position

/-! Reading the fragments of a chain back from its selector. The selector is cut at each return to
depth 0 and the connective between the pieces is checked; if all fragments are balanced this finds
exactly them, in call order, and so does the same scan inside a group with the members of the
group. -/
namespace SearchCriteria

open Text

namespace SearchQuery

def unwrap? : List Char → Option String
  | '(' :: rest => if rest.getLast? = some ')' then some (String.ofList rest.dropLast) else none
  | _ => none

/-- The fragments in pieces, of which all but the first begin with the connective. -/
def ofPieces? (c : Connective) : List (List Char) → Option (List String)
  | [] => some []
  | first :: later => do
    let fragment ← unwrap? first
    let rest ← later.mapM fun piece => (dropWord? c.separator.toList piece).bind unwrap?
    return fragment :: rest

def fragments? (c : Connective) (s : String) : Option (List String) :=
  match cuts 0 [] s.toList with
  | (pieces, []) => ofPieces? c pieces
  | (_, _ :: _) => none

/-! How the pieces of joined fragments look. -/

theorem toList_wrap (f : String) : (wrap f).toList = '(' :: f.toList ++ [')'] := by
  simp [wrap]

theorem flat_separator (c : Connective) : ∀ d ∈ c.separator.toList, tilt d = 0 := by
  have hall : c.separator.toList.all (fun d => tilt d == 0) = true := by cases c <;> decide
  intro d hd
  simpa using List.all_eq_true.1 hall d hd

theorem joined_cons (c : Connective) (f : String) (fs : List String) :
    joined c (f :: fs) = wrap f ++ if fs = [] then "" else c.separator ++ joined c fs := by
  cases fs with
  | nil => simp [joined]
  | cons g fs => simp [joined, String.append_assoc]

def netDepths (fs : List String) : Int := fs.foldr (fun f n => netDepth f.toList + n) 0

@[simp] theorem netDepths_nil : netDepths [] = 0 := rfl
@[simp] theorem netDepths_cons (f : String) (fs : List String) :
    netDepths (f :: fs) = netDepth f.toList + netDepths fs := rfl

theorem netDepths_append (fs gs : List String) :
    netDepths (fs ++ gs) = netDepths fs + netDepths gs := by
  induction fs with
  | nil => simp
  | cons f fs ih => simp [ih, Int.add_assoc]

theorem netDepths_solid (fs : List String) : netDepths (solid fs) = netDepths fs := by
  induction fs with
  | nil => rfl
  | cons f fs ih =>
    cases hf : Text.isBlank f with
    | true =>
      have hsolid : solid (f :: fs) = solid fs := by simp [solid, hf]
      rw [hsolid, ih, netDepths_cons, netDepth_of_isBlank hf, Int.zero_add]
    | false =>
      have hsolid : solid (f :: fs) = f :: solid fs := by simp [solid, hf]
      rw [hsolid, netDepths_cons, ih, netDepths_cons]

theorem netDepth_joined (c : Connective) (fs : List String) :
    netDepth (joined c fs).toList = netDepths fs := by
  induction fs with
  | nil => simp
  | cons f fs ih =>
    have hwrap : netDepth (wrap f).toList = netDepth f.toList := by
      simp only [toList_wrap, netDepth_append, netDepth_cons, netDepth_nil, tilt_opening,
        tilt_closing]
      omega
    rw [joined_cons, String.toList_append, netDepth_append, hwrap, netDepths_cons]
    split
    · next h => simp [h]
    · rw [String.toList_append, netDepth_append, netDepth_of_flat (flat_separator c), ih,
        Int.zero_add]

theorem balanced_wrap {f : String} (h : Balanced f.toList) : Balanced (wrap f).toList := by
  rw [toList_wrap]
  exact h.parenthesized

theorem balanced_joined (c : Connective) {fs : List String} (h : ∀ f ∈ fs, Balanced f.toList) :
    Balanced (joined c fs).toList := by
  induction fs with
  | nil => simpa using Balanced.nil
  | cons f fs ih =>
    obtain ⟨hf, hfs⟩ := List.forall_mem_cons.1 h
    rw [joined_cons, String.toList_append]
    refine (balanced_wrap hf).append ?_
    split
    · exact Balanced.nil
    · rw [String.toList_append]
      exact (Balanced.of_flat (flat_separator c)).append (ih hfs)

def laterPiece (c : Connective) (f : String) : List Char :=
  c.separator.toList ++ (wrap f).toList

/-- Joined fragments are cut at the ends of the fragments and nowhere else. -/
theorem cuts_joined (c : Connective) (piece : List Char) {f : String} {fs : List String}
    (h : ∀ g ∈ f :: fs, Balanced g.toList) :
    cuts 0 piece (joined c (f :: fs)).toList =
      ((piece ++ (wrap f).toList) :: fs.map (laterPiece c), []) := by
  -- The piece is general because the connective is read before the fragment that it belongs to.
  induction fs generalizing f piece with
  | nil =>
    have hf : Balanced f.toList := h f (by simp)
    have hcut := cuts_parenthesized hf piece []
    simpa [joined, toList_wrap, cuts] using hcut
  | cons g fs ih =>
    obtain ⟨hf, hrest⟩ := List.forall_mem_cons.1 h
    have htext : (joined c (f :: g :: fs)).toList =
        '(' :: f.toList ++ ')' :: (c.separator.toList ++ (joined c (g :: fs)).toList) := by
      simp [joined_cons c f, toList_wrap]
    rw [htext, cuts_parenthesized hf, cuts_flat (flat_separator c), ih _ hrest]
    simp [laterPiece, toList_wrap]

theorem unwrap?_wrap (f : String) : unwrap? (wrap f).toList = some f := by
  rw [toList_wrap]
  simp [unwrap?, List.getLast?_append, List.dropLast_append_of_ne_nil]

theorem ofPieces?_pieces (c : Connective) (f : String) (fs : List String) :
    ofPieces? c ((wrap f).toList :: fs.map (laterPiece c)) = some (f :: fs) := by
  have hlater : (fs.map (laterPiece c)).mapM
      (fun piece => (dropWord? c.separator.toList piece).bind unwrap?) = some fs := by
    induction fs with
    | nil => rfl
    | cons g fs ih => simp [laterPiece, dropWord?_append, unwrap?_wrap, ih]
  simp [ofPieces?, unwrap?_wrap, hlater]

theorem fragments?_joined (c : Connective) {fs : List String}
    (h : ∀ f ∈ fs, Balanced f.toList) : fragments? c (joined c fs) = some fs := by
  cases fs with
  | nil => rfl
  | cons f fs =>
    rw [fragments?, cuts_joined c [] h]
    exact ofPieces?_pieces c f fs

/-- Where a fragment ends, the text ends or the connective follows and opens the next one. -/
theorem after_fragment (c : Connective) {fs : List String} (h : ∀ f ∈ fs, Balanced f.toList)
    {before after : List Char} (hsplit : (joined c fs).toList = before ++ ')' :: after)
    (hdepth : netDepth before = 1) :
    after = [] ∨ ∃ rest, after = c.separator.toList ++ '(' :: rest := by
  cases fs with
  | nil => simp at hsplit
  | cons f fs =>
    have hcuts := cuts_joined c [] h
    rw [hsplit] at hcuts
    obtain ⟨suffix, hsuffix, rfl⟩ := cuts_return hdepth hcuts
    cases suffix with
    | nil => exact Or.inl rfl
    | cons piece later =>
      obtain ⟨g, -, rfl⟩ := List.mem_map.1 (hsuffix.subset List.mem_cons_self)
      right
      refine ⟨g.toList ++ ')' :: later.flatten, ?_⟩
      simp [laterPiece, toList_wrap]

end SearchQuery

namespace Operation

open SearchQuery

def parts : Operation → List String
  | filter clause => [clause.compile]
  | anyOf ps => ps.map fun p => p.compilePairs .or
  | compare c ps => ps.map fun p => (p.adjust c).compileRanges c.bounds
  | merge other => [other.selector]
  | sort _ => []
  | limit _ => []
  | skip _ => []

/-- The connective between the predicates of an operation that makes a group of them. -/
def groupedBy : Operation → Option Connective
  | anyOf _ => some .or
  | compare _ _ => some .and
  | _ => none

theorem fragment_of_groupedBy {op : Operation} {c : Connective} (h : op.groupedBy = some c) :
    op.fragment = joined c (solid op.parts) := by
  cases op with
  | anyOf ps => cases h; rfl
  | compare comparison ps => cases h; rfl
  | filter clause => cases h
  | sort spec => cases h
  | limit rows => cases h
  | skip start => cases h
  | merge other => cases h

theorem netDepth_fragment (op : Operation) : netDepth op.fragment.toList = netDepths op.parts := by
  cases op with
  | filter clause => exact (Int.add_zero _).symm
  | anyOf ps => exact (netDepth_joined ..).trans (netDepths_solid _)
  | compare c ps => exact (netDepth_joined ..).trans (netDepths_solid _)
  | merge other => exact (Int.add_zero _).symm
  | sort spec => rfl
  | limit rows => rfl
  | skip start => rfl

end Operation

namespace SearchQuery

theorem netDepths_contributions (ops : List Operation) :
    netDepths (contributions ops) = netDepths (solid (ops.flatMap Operation.parts)) := by
  rw [contributions, netDepths_solid, netDepths_solid]
  induction ops with
  | nil => rfl
  | cons op ops ih =>
    rw [List.map_cons, netDepths_cons, ih, op.netDepth_fragment, List.flatMap_cons,
      netDepths_append]

/-- The depth of a selector is that of its fragments. Balanced fragments are read back from it in
call order, and so are the predicates of a group from their fragment. -/
theorem fragments_read_back (ops : List Operation) :
    let q := ({} : SearchQuery).applyAll ops
    netDepth q.selector.toList = netDepths (contributions ops) ∧
    netDepth q.selector.toList = netDepths (solid (ops.flatMap Operation.parts)) ∧
    ((∀ f ∈ contributions ops, Balanced f.toList) →
      Balanced q.selector.toList ∧
      fragments? .and q.selector = some (contributions ops) ∧
      (∀ others, (∀ f ∈ contributions others, Balanced f.toList) →
        (({} : SearchQuery).applyAll others).selector = q.selector →
          contributions others = contributions ops) ∧
      ∀ before after, q.selector.toList = before ++ ')' :: after → netDepth before = 1 →
        after = [] ∨ ∃ rest, after = " AND (".toList ++ rest) ∧
    ∀ op ∈ ops, ∀ c, op.groupedBy = some c → (∀ f ∈ solid op.parts, Balanced f.toList) →
      Balanced op.fragment.toList ∧ fragments? c op.fragment = some (solid op.parts) := by
  intro q
  have hq : q.selector = joined .and (contributions ops) := selector_applyAll ops
  have hdepth : netDepth q.selector.toList = netDepths (contributions ops) := by
    rw [hq, netDepth_joined]
  refine ⟨hdepth, hdepth.trans (netDepths_contributions ops), fun hbalanced => ?_,
    fun op _ c hgroup hparts => ?_⟩
  · have hread : fragments? .and q.selector = some (contributions ops) := by
      rw [hq, fragments?_joined .and hbalanced]
    refine ⟨?_, hread, fun others hothers heq => ?_, fun before after hsplit hreturn => ?_⟩
    · rw [hq]
      exact balanced_joined .and hbalanced
    · have hreadOthers := fragments?_joined .and hothers
      rw [← selector_applyAll, heq, hread] at hreadOthers
      exact (Option.some.inj hreadOthers).symm
    · rw [hq] at hsplit
      rcases after_fragment .and hbalanced hsplit hreturn with hend | ⟨rest, hnext⟩
      · exact Or.inl hend
      · exact Or.inr ⟨rest, hnext⟩
  · rw [Operation.fragment_of_groupedBy hgroup]
    exact ⟨balanced_joined c hparts, fragments?_joined c hparts⟩

def alternatives : Operation :=
  .anyOf [⟨[("b", .int 1), ("c", .int 2)]⟩, ⟨[]⟩, ⟨[("d", .int 3)]⟩]

def nestedChain : List Operation := [.filter (.raw "a:(1 OR 2)"), .limit 5, alternatives]

theorem fragments_read_back_nestedChain :
    (∀ f ∈ contributions nestedChain, Balanced f.toList) ∧
    fragments? .and (({} : SearchQuery).applyAll nestedChain).selector =
      some ["a:(1 OR 2)", "(b:1 OR c:2) OR (d:3)"] ∧
    fragments? .or "(b:1 OR c:2) OR (d:3)" = some ["b:1 OR c:2", "d:3"] := by
  have hfragments : contributions nestedChain = ["a:(1 OR 2)", "(b:1 OR c:2) OR (d:3)"] := by
    decide +kernel
  have hbalanced : ∀ f ∈ contributions nestedChain, Balanced f.toList := by
    rw [hfragments]
    decide
  have hparts : solid alternatives.parts = ["b:1 OR c:2", "d:3"] := by decide +kernel
  have hinner : ∀ f ∈ solid alternatives.parts, Balanced f.toList := by
    rw [hparts]
    decide
  have hmem : alternatives ∈ nestedChain := by simp [nestedChain]
  obtain ⟨-, -, hread, hgroups⟩ := fragments_read_back nestedChain
  refine ⟨hbalanced, by rw [(hread hbalanced).2.1, hfragments], ?_⟩
  have hgroup := (hgroups alternatives hmem .or rfl hinner).2
  rwa [hparts, Operation.fragment_of_groupedBy rfl, hparts] at hgroup

example : fragments? .and "(a)(b)" = none := by decide +kernel

end SearchQuery
end SearchCriteria
