import SearchCriteria.Proofs.Scope.Restoration

/-! What may happen between the push of a frame and the drop of its guard. Frames may be pushed and
left, popped, or guarded themselves, in any order, of this collection and of others. Dropping the
guard cuts off whatever lies where its frame was and above; so what lay below is there again, unless
it was popped itself. -/
namespace SearchCriteria

namespace ScopeContext

/-- A frame that was popped: from which stack, and what lay on it. -/
structure Popped where
  collection : String
  stack : List Criteria

/-- Nothing but these frames, or the first of them, lay on the stack, so one of them was popped. -/
def Popped.TakesFrom (p : Popped) (collection : String) (frames : List Criteria) : Prop :=
  p.collection = collection ∧ p.stack <+: frames

def popped (ctx : ScopeContext) (records : RecordKind) (collection : String) : List Popped :=
  (ctx.top? records collection).toList.map fun _ => ⟨collection, ctx.frames collection⟩

theorem top?_eq_none {ctx : ScopeContext} {records : RecordKind} {collection : String}
    (h : ∀ top, (ctx.frames collection).getLast? = some top → top.model.records ≠ records) :
    ctx.top? records collection = none := by
  cases htop : (ctx.frames collection).getLast? with
  | none => rw [top?, htop]; rfl
  | some top => rw [top?, htop]; simpa using h top htop

/-- A frame that is pushed and left is what is popped next, and then all is as it was. -/
theorem pop_push (ctx : ScopeContext) (c : Criteria) :
    ((ctx.push c).2.pop c.model.records c.model.collection).1 = some c ∧
      ctx.Restored ((ctx.push c).2.pop c.model.records c.model.collection).2 := by
  have hentered : ctx.Entered c (ctx.push c).2 := entered_push ctx c
  rw [pop_of_top hentered.top?]
  refine ⟨rfl, fun collection => ?_, fun collection h => ?_⟩
  · rw [frames_setFrames]
    split
    · next heq => rw [heq, hentered.frames, List.dropLast_concat]
    · next hne => exact hentered.others collection hne
  · exact (hentered.suppressed collection).trans h

end ScopeContext

open ScopeContext

/-- What is done with a context, and the frames that are popped meanwhile. Blocks and calls on
criteria are done under a guard as well, so they are covered. -/
inductive Handled (rs : Registries) : ScopeContext → List Popped → ScopeContext → Prop
  | start (ctx : ScopeContext) : Handled rs ctx [] ctx
  | leak {ctx now : ScopeContext} {pops : List Popped} (h : Handled rs ctx pops now)
      (c : Criteria) : Handled rs ctx pops (now.push c).2
  | pop {ctx now : ScopeContext} {pops : List Popped} (h : Handled rs ctx pops now)
      (records : RecordKind) (collection : String) :
      Handled rs ctx (pops ++ now.popped records collection) (now.pop records collection).2
  | suppress {ctx now : ScopeContext} {pops : List Popped} (h : Handled rs ctx pops now)
      (collection : String) : Handled rs ctx pops (now.suppress collection)
  | guarded {ctx now after : ScopeContext} {pops inner : List Popped}
      (h : Handled rs ctx pops now) (c : Criteria)
      (hinner : Handled rs (now.push c).2 inner after) :
      Handled rs ctx (pops ++ inner) ((now.push c).1.drop after)
  | call {ctx now : ScopeContext} {pops : List Popped} {depth : Nat} {o : Outcome}
      (h : Handled rs ctx pops now) (hcall : Ended rs depth now o) :
      Handled rs ctx pops o.context

theorem ScopeGuard.frames_drop_pushed (ctx : ScopeContext) (c : Criteria) (after : ScopeContext) :
    ((ctx.push c).1.drop after).frames c.model.collection =
      (after.frames c.model.collection).take (ctx.frames c.model.collection).length := by
  have hcollection : c.model.collection = (ctx.push c).1.collection := rfl
  have hdepth : (ctx.push c).1.depth - 1 = (ctx.frames c.model.collection).length := by
    simp [push]
  rw [frames_drop, if_pos hcollection, hdepth]

theorem ScopeGuard.frames_drop_other {c : Criteria} {other : String}
    (h : other ≠ c.model.collection) (ctx after : ScopeContext) :
    ((ctx.push c).1.drop after).frames other = after.frames other := by
  rw [frames_drop]
  exact if_neg h

namespace ScopeContext

variable {ctx : ScopeContext} {collection : String} {s : List Criteria}

theorem prefix_push (h : s <+: ctx.frames collection) (c : Criteria) :
    s <+: (ctx.push c).2.frames collection := by
  have hentered : ctx.Entered c (ctx.push c).2 := entered_push ctx c
  by_cases hc : collection = c.model.collection
  · rw [hc, hentered.frames, ← hc]
    exact h.trans (List.prefix_append _ _)
  · rwa [hentered.others collection hc]

/-- A frame that is popped without being one of these lies above them. -/
theorem prefix_pop (h : s <+: ctx.frames collection) (records : RecordKind) (other : String)
    (hpops : ∀ p ∈ ctx.popped records other, ¬ p.TakesFrom collection s) :
    s <+: (ctx.pop records other).2.frames collection := by
  cases htop : ctx.top? records other with
  | none => rwa [pop_of_no_top htop]
  | some c =>
    rw [pop_of_top htop, frames_setFrames]
    split
    · next heq =>
      subst heq
      have hpopped : ¬ ctx.frames collection <+: s := fun hprefix =>
        hpops ⟨collection, ctx.frames collection⟩ (by simp [popped, htop]) ⟨rfl, hprefix⟩
      have hne : s ≠ ctx.frames collection := by
        rintro rfl
        exact hpopped List.prefix_rfl
      have hlonger : s.length < (ctx.frames collection).length :=
        Nat.lt_of_le_of_ne h.length_le fun hlength => hne (h.eq_of_length hlength)
      refine List.prefix_of_prefix_length_le h (List.dropLast_prefix _) ?_
      rw [List.length_dropLast]
      omega
    · exact h

theorem prefix_drop {after : ScopeContext} {c : Criteria} (h : s <+: ctx.frames collection)
    (hafter : s <+: after.frames collection) :
    s <+: ((ctx.push c).1.drop after).frames collection := by
  by_cases hc : collection = c.model.collection
  · subst hc
    rw [ScopeGuard.frames_drop_pushed]
    exact List.prefix_take_iff.2 ⟨hafter, h.length_le⟩
  · rwa [ScopeGuard.frames_drop_other hc]

end ScopeContext

/-- Frames stay where they are as long as none of them is popped. -/
theorem Handled.prefix_frames {rs : Registries} {ctx after : ScopeContext} {pops : List Popped}
    {collection : String} {s : List Criteria} (h : Handled rs ctx pops after)
    (hs : s <+: ctx.frames collection) (hpops : ∀ p ∈ pops, ¬ p.TakesFrom collection s) :
    s <+: after.frames collection := by
  induction h with
  | start => exact hs
  | leak h c ih => exact prefix_push (ih hs hpops) c
  | pop h records other ih =>
    rw [List.forall_mem_append] at hpops
    exact prefix_pop (ih hs hpops.1) records other hpops.2
  | suppress h other ih => exact ih hs hpops
  | guarded h c hinner ih ihinner =>
    rw [List.forall_mem_append] at hpops
    have hnow := ih hs hpops.1
    exact prefix_drop hnow (ihinner (prefix_push hnow c) hpops.2)
  | call h hcall ih =>
    rw [hcall.restored.frames]
    exact ih hs hpops

/-- Dropping a guard leaves of its stack only what lay below its frame, whatever was done since the
frame was pushed, and of the other stacks what was done to them. -/
theorem guard_dropped {rs : Registries} {ctx after : ScopeContext} {c : Criteria}
    {pops : List Popped} (h : Handled rs (ctx.push c).2 pops after) :
    let collection := c.model.collection
    let s := ctx.frames collection
    let t := after.frames collection
    let dropped := (ctx.push c).1.drop after
    dropped.frames collection = t.take (min s.length t.length) ∧
    dropped.depth collection ≤ ctx.depth collection ∧
    (∀ other, other ≠ collection → dropped.frames other = after.frames other) ∧
    (∀ other, dropped.isSuppressed other = after.isSuppressed other) ∧
    ((∀ p ∈ pops, ¬ p.TakesFrom collection s) → dropped.frames collection = s) ∧
    -- A pop without a guard.
    (∀ (x : ScopeContext) (d : Criteria),
      let popped := (x.push d).2.pop d.model.records d.model.collection
      popped.1 = some d ∧ ∀ other, popped.2.frames other = x.frames other ∧
        popped.2.depth other = x.depth other ∧
        ∀ records, popped.2.top? records other = x.top? records other) ∧
    ∀ (x : ScopeContext) (records : RecordKind) (other : String),
      (∀ top, (x.frames other).getLast? = some top → top.model.records ≠ records) →
      x.pop records other = (none, x) := by
  intro collection s t dropped
  have hcut : dropped.frames collection = t.take s.length :=
    ScopeGuard.frames_drop_pushed ctx c after
  refine ⟨?_, ?_, fun other hother => ScopeGuard.frames_drop_other hother ctx after,
    ScopeGuard.isSuppressed_drop _ after, fun hpops => ?_, fun x d => ?_,
    fun x records other hrecords => pop_of_no_top (top?_eq_none hrecords)⟩
  · rw [hcut, List.take_eq_take_min]
  · rw [depth, hcut]
    exact List.length_take_le _ _
  · have hbelow : s <+: t := h.prefix_frames (prefix_push List.prefix_rfl c) hpops
    rw [hcut]
    exact (List.prefix_iff_eq_take.1 hbelow).symm
  · obtain ⟨hpopped, hrestored⟩ := pop_push x d
    exact ⟨hpopped, fun other => ⟨hrestored.frames other, hrestored.depth other,
      fun records => hrestored.top? records other⟩⟩

/-- The frame of the guard is popped, another is left in its place and one more under a guard of its
own; the frame below is there again. -/
theorem guard_dropped_people :
    let people : Model := { id := 0, collection := "people" }
    let named (selector : String) : Criteria := { model := people, query := { selector } }
    let ctx : ScopeContext := (({} : ScopeContext).push (named "(a:1)")).2
    let entry := (ctx.push (named "(b:2)")).2
    let popped := (entry.pop .text "people").2
    let left := ((popped.push (named "(c:3)")).2.pop .bytes "people").2
    let deeper := ((left.push (named "(d:4)")).2.push (named "(e:5)")).2
    let after := ((left.push (named "(d:4)")).1.drop deeper).suppress "people"
    (ctx.frames "people").map Criteria.selector = ["(a:1)"] ∧
    (deeper.frames "people").map Criteria.selector = ["(a:1)", "(c:3)", "(d:4)", "(e:5)"] ∧
    (after.frames "people").map Criteria.selector = ["(a:1)", "(c:3)"] ∧
    ((ctx.push (named "(b:2)")).1.drop after).frames "people" = ctx.frames "people" := by
  intro people named ctx entry popped left deeper after
  have hstart : Handled (fun _ => {}) entry [] entry := .start entry
  have hinner : Handled (fun _ => {}) (left.push (named "(d:4)")).2 [] deeper :=
    (Handled.start _).leak (named "(e:5)")
  have h := ((((hstart.pop .text "people").leak (named "(c:3)")).pop .bytes "people").guarded
    (named "(d:4)") hinner).suppress "people"
  obtain ⟨-, -, -, -, hrestored, -⟩ := guard_dropped h
  -- Frames that differ in their selectors are told apart.
  have hpops : ∀ p ∈ entry.popped .text "people" ++
      (popped.push (named "(c:3)")).2.popped .bytes "people",
      ¬ p.stack.map Criteria.selector <+: (ctx.frames "people").map Criteria.selector := by
    decide +kernel
  refine ⟨by decide +kernel, by decide +kernel, by decide +kernel,
    hrestored fun p hp htakes => hpops p ?_ (htakes.2.map Criteria.selector)⟩
  rwa [List.nil_append, List.append_nil] at hp

end SearchCriteria
