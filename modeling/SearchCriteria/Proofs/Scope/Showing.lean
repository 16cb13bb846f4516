import SearchCriteria.Proofs.Scope.Guarding

/-! What a guard shows. It looks at the top of its stack and not at the place of its own frame.
While that frame is there, it is shown as soon as nothing lies above it; a frame that was left above
it is shown in its place, and once it was popped the frame below it is. What is done to other
stacks, or under guards that were dropped again, does not change what is shown. -/
namespace SearchCriteria

open ScopeContext

/-- What is done without a lasting push on a stack and without a pop of its frames. Under a guard of
this stack anything may be done that leaves the frames below it. -/
inductive Undisturbed (rs : Registries) (collection : String) :
    ScopeContext → ScopeContext → Prop
  | start (ctx : ScopeContext) : Undisturbed rs collection ctx ctx
  | leak {ctx now : ScopeContext} (h : Undisturbed rs collection ctx now) (c : Criteria)
      (hc : c.model.collection ≠ collection) : Undisturbed rs collection ctx (now.push c).2
  | pop {ctx now : ScopeContext} (h : Undisturbed rs collection ctx now) (records : RecordKind)
      (other : String) (hother : other = collection → now.top? records other = none) :
      Undisturbed rs collection ctx (now.pop records other).2
  | suppress {ctx now : ScopeContext} (h : Undisturbed rs collection ctx now) (other : String) :
      Undisturbed rs collection ctx (now.suppress other)
  | guarded {ctx now after : ScopeContext} {pops : List Popped}
      (h : Undisturbed rs collection ctx now) (c : Criteria) (hc : c.model.collection = collection)
      (hinner : Handled rs (now.push c).2 pops after)
      (hpops : ∀ p ∈ pops, ¬ p.TakesFrom collection (now.frames collection)) :
      Undisturbed rs collection ctx ((now.push c).1.drop after)
  | guardedElsewhere {ctx now after : ScopeContext} (h : Undisturbed rs collection ctx now)
      (c : Criteria) (hc : c.model.collection ≠ collection)
      (hinner : Undisturbed rs collection (now.push c).2 after) :
      Undisturbed rs collection ctx ((now.push c).1.drop after)
  | call {ctx now : ScopeContext} {depth : Nat} {o : Outcome}
      (h : Undisturbed rs collection ctx now) (hcall : Ended rs depth now o) :
      Undisturbed rs collection ctx o.context

namespace ScopeContext

variable {ctx : ScopeContext} {collection : String} {records : RecordKind}

theorem frames_push_other (ctx : ScopeContext) {c : Criteria}
    (h : c.model.collection ≠ collection) :
    (ctx.push c).2.frames collection = ctx.frames collection :=
  (entered_push ctx c).others collection (Ne.symm h)

theorem frames_pop_of_top {c : Criteria} (h : ctx.top? records collection = some c) :
    (ctx.pop records collection).2.frames collection = (ctx.frames collection).dropLast := by
  simp [pop_of_top h, frames_setFrames]

theorem frames_pop_other {other : String}
    (h : other = collection → ctx.top? records other = none) :
    (ctx.pop records other).2.frames collection = ctx.frames collection := by
  cases htop : ctx.top? records other with
  | none => rw [pop_of_no_top htop]
  | some c =>
    have hne : collection ≠ other := by
      rintro rfl
      simp [h rfl] at htop
    simp [pop_of_top htop, frames_setFrames, hne]

theorem top?_eq_some_iff {c : Criteria} :
    ctx.top? records collection = some c ↔
      (ctx.frames collection).getLast? = some c ∧ c.model.records = records := by
  simp [top?, Option.filter_eq_some_iff]

theorem top?_of_frames {other : ScopeContext}
    (h : other.frames collection = ctx.frames collection) :
    other.top? records collection = ctx.top? records collection := by
  rw [top?, h, top?]

theorem top?_concat {frames : List Criteria} {c : Criteria}
    (h : ctx.frames collection = frames ++ [c]) :
    ctx.top? records collection = if c.model.records = records then some c else none := by
  by_cases hc : c.model.records = records <;> simp [top?, h, hc]

end ScopeContext

theorem Undisturbed.frames {rs : Registries} {collection : String} {ctx now : ScopeContext}
    (h : Undisturbed rs collection ctx now) : now.frames collection = ctx.frames collection := by
  induction h with
  | start => rfl
  | leak h c hc ih => rw [frames_push_other _ hc, ih]
  | pop h records other hother ih => rw [frames_pop_other hother, ih]
  | suppress h other ih => exact ih
  | @guarded _ now after _ h c hc hinner hpops ih =>
    -- The frames that were there lie below that of the guard.
    have hbelow : now.frames collection <+: after.frames collection :=
      hinner.prefix_frames (prefix_push List.prefix_rfl c) hpops
    subst hc
    rw [ScopeGuard.frames_drop_pushed, ← List.prefix_iff_eq_take.1 hbelow, ih]
  | guardedElsewhere h c hc hinner ih ihinner =>
    rw [ScopeGuard.frames_drop_other (Ne.symm hc), ihinner, frames_push_other _ hc, ih]
  | call h hcall ih => rw [hcall.restored.frames, ih]

/-- A guard shows the top of its stack, whoever put it there. That is its own criteria if its frame
was not popped and its stack is as high as the guard remembers. -/
theorem guard_shows_top {rs : Registries} {ctx after : ScopeContext} {c : Criteria}
    {pops : List Popped} (h : Handled rs (ctx.push c).2 pops after) :
    let collection := c.model.collection
    let records := c.model.records
    let guard := (ctx.push c).1
    (∀ d, guard.criteria? after = some d ↔
      (after.frames collection).getLast? = some d ∧ d.model.records = records) ∧
    (∀ d, d.model.collection = collection → d.model.records = records →
      guard.criteria? (after.push d).2 = some d) ∧
    (∀ now, Undisturbed rs collection after now →
      guard.criteria? now = guard.criteria? after) ∧
    -- Neither the frame of the guard nor one below it was popped.
    ((∀ p ∈ pops, ¬ p.TakesFrom collection (ctx.frames collection ++ [c])) →
      guard.depth ≤ after.depth collection ∧
      (after.depth collection = guard.depth → guard.criteria? after = some c ∧
        (after.pop records collection).1 = some c ∧
        guard.criteria? (after.pop records collection).2 = ctx.top? records collection) ∧
      (guard.depth < after.depth collection → ∃ left d,
        after.frames collection = ctx.frames collection ++ c :: left ++ [d] ∧
        guard.criteria? after = if d.model.records = records then some d else none)) := by
  intro collection records guard
  have hheight : guard.depth = (ctx.frames collection ++ [c]).length := rfl
  refine ⟨fun d => top?_eq_some_iff, ?_, fun now hnow => top?_of_frames hnow.frames,
    fun hpops => ?_⟩
  · intro d hd hrecords
    have htop : (after.push d).2.top? d.model.records d.model.collection = some d :=
      (entered_push after d).top?
    rwa [hrecords, hd] at htop
  · have hentry : (ctx.push c).2.frames collection = ctx.frames collection ++ [c] :=
      frames_push ctx c
    obtain ⟨above, habove⟩ : ctx.frames collection ++ [c] <+: after.frames collection :=
      h.prefix_frames (hentry ▸ List.prefix_rfl) hpops
    have hdepth : after.depth collection = guard.depth + above.length := by
      rw [depth, ← habove, List.length_append, hheight]
    refine ⟨by omega, fun hlow => ?_, fun hhigh => ?_⟩
    · obtain rfl : above = [] := List.eq_nil_of_length_eq_zero (by omega)
      rw [List.append_nil] at habove
      have htop : after.top? records collection = some c := by
        rw [top?_concat habove.symm, if_pos rfl]
      refine ⟨htop, by rw [pop_of_top htop], ?_⟩
      have hbelow : (after.pop records collection).2.frames collection =
          ctx.frames collection := by
        rw [frames_pop_of_top htop, ← habove, List.dropLast_concat]
      exact top?_of_frames hbelow
    · have hne : above ≠ [] := by
        rintro rfl
        simp only [List.length_nil] at hdepth
        omega
      have hframes : after.frames collection =
          ctx.frames collection ++ c :: above.dropLast ++ [above.getLast hne] := by
        rw [← habove]
        simp [List.dropLast_concat_getLast]
      exact ⟨above.dropLast, above.getLast hne, hframes, top?_concat hframes⟩

/-- Another guard is dropped in between, and then a frame is left above that of the guard. -/
theorem guard_shows_top_people :
    let people : Model := { id := 0, collection := "people" }
    let named (selector : String) : Criteria := { model := people, query := { selector } }
    let ctx : ScopeContext := (({} : ScopeContext).push (named "(a:1)")).2
    let own := named "(b:2)"
    let entry := (ctx.push own).2
    let deeper := ((entry.push (named "(c:3)")).2.push (named "(d:4)")).2
    let settled := (entry.push (named "(c:3)")).1.drop deeper
    let left := (settled.push (named "(e:5)")).2
    Handled (fun _ => {}) entry [] left ∧
    (ctx.push own).1.criteria? settled = some own ∧
    (ctx.push own).1.criteria? (settled.pop .text "people").2 = some (named "(a:1)") ∧
    (ctx.push own).1.criteria? left = some (named "(e:5)") := by
  intro people named ctx own entry deeper settled left
  have hstart : Handled (fun _ => {}) entry [] entry := .start entry
  have hinner : Handled (fun _ => {}) (entry.push (named "(c:3)")).2 [] deeper :=
    (Handled.start _).leak (named "(d:4)")
  have hsettled : Handled (fun _ => {}) entry [] settled := hstart.guarded (named "(c:3)") hinner
  obtain ⟨-, hleft, -, hown⟩ := guard_shows_top hsettled
  obtain ⟨-, hlow, -⟩ := hown (by simp)
  obtain ⟨hshown, -, hbelow⟩ := hlow (by decide +kernel)
  exact ⟨hsettled.leak (named "(e:5)"), hshown, hbelow.trans rfl, hleft (named "(e:5)") rfl rfl⟩

/-- A frame that was left above that of the guard is shown, and if the guard's own was popped one of
an enclosing chain is. -/
theorem guard_shows_another :
    let people : Model := { id := 0, collection := "people" }
    let named (selector : String) : Criteria := { model := people, query := { selector } }
    let ctx : ScopeContext := (({} : ScopeContext).push (named "(a:1)")).2
    let own := named "(b:2)"
    let guard := (ctx.push own).1
    let entry := (ctx.push own).2
    let left := (entry.push (named "(c:3)")).2
    let popped := (entry.pop .text "people").2
    Handled (fun _ => {}) entry [] left ∧
    guard.criteria? left = some (named "(c:3)") ∧ named "(c:3)" ≠ own ∧
    (∃ pops, Handled (fun _ => {}) entry pops popped) ∧
    guard.criteria? popped = some (named "(a:1)") ∧ named "(a:1)" ≠ own := by
  intro people named ctx own guard entry left popped
  have hstart : Handled (fun _ => {}) entry [] entry := .start entry
  refine ⟨hstart.leak (named "(c:3)"), rfl, ?_, ⟨_, hstart.pop .text "people"⟩, rfl, ?_⟩
  · intro heq
    exact absurd (congrArg Criteria.selector heq) (by decide)
  · intro heq
    exact absurd (congrArg Criteria.selector heq) (by decide)

end SearchCriteria
