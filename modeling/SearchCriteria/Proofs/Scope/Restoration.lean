import SearchCriteria.Scope.Dispatch

/-! What calls leave of their context. A frame is pushed for a call on a criteria and for a block,
and it is dropped when they end, whatever came out. So whoever comes to an end leaves every stack
as it was, and a default scope that was left out stays left out. -/
namespace SearchCriteria

namespace ScopeContext

/-- The stacks are what they were before, and what was left out still is. -/
structure Restored (before after : ScopeContext) : Prop where
  frames : ∀ collection, after.frames collection = before.frames collection
  suppressed : ∀ collection, before.isSuppressed collection = true →
    after.isSuppressed collection = true

/-- A context that differs from the one before by a criteria on top of its stack. -/
structure Entered (before : ScopeContext) (c : Criteria) (entry : ScopeContext) : Prop where
  frames : entry.frames c.model.collection = before.frames c.model.collection ++ [c]
  others : ∀ other, other ≠ c.model.collection → entry.frames other = before.frames other
  suppressed : ∀ collection, entry.isSuppressed collection = before.isSuppressed collection

namespace Restored

theorem refl (ctx : ScopeContext) : ctx.Restored ctx := ⟨fun _ => rfl, fun _ h => h⟩

theorem trans {a b c : ScopeContext} (hab : a.Restored b) (hbc : b.Restored c) : a.Restored c where
  frames collection := (hbc.frames collection).trans (hab.frames collection)
  suppressed collection h := hbc.suppressed collection (hab.suppressed collection h)

theorem suppress (ctx : ScopeContext) (collection : String) :
    ctx.Restored (ctx.suppress collection) where
  frames other := frames_suppress ctx collection other
  suppressed other h := by rw [isSuppressed_suppress, h, Bool.or_true]

variable {before after : ScopeContext}

theorem depth (h : before.Restored after) (collection : String) :
    after.depth collection = before.depth collection := by
  rw [ScopeContext.depth, h.frames, ScopeContext.depth]

theorem top? (h : before.Restored after) (records : RecordKind) (collection : String) :
    after.top? records collection = before.top? records collection := by
  rw [ScopeContext.top?, h.frames, ScopeContext.top?]

theorem pop? (h : before.Restored after) (records : RecordKind) (collection : String) :
    (after.pop? records collection).map Prod.fst =
      (before.pop? records collection).map Prod.fst := by
  simp only [ScopeContext.pop?, Option.map_map, Function.comp_def, h.top?]

end Restored

theorem entered_push (ctx : ScopeContext) (c : Criteria) : ctx.Entered c (ctx.push c).2 where
  frames := frames_push ctx c
  others other h := by simp [push, frames_setFrames, h]
  suppressed _ := rfl

namespace Entered

variable {before entry : ScopeContext} {c : Criteria}

theorem depth (h : before.Entered c entry) :
    entry.depth c.model.collection = before.depth c.model.collection + 1 := by
  rw [ScopeContext.depth, h.frames, List.length_append, ScopeContext.depth, List.length_singleton]

theorem top? (h : before.Entered c entry) :
    entry.top? c.model.records c.model.collection = some c := by
  simp [ScopeContext.top?, h.frames]

end Entered
end ScopeContext

theorem ScopeGuard.isSuppressed_drop (g : ScopeGuard) (ctx : ScopeContext) (collection : String) :
    (g.drop ctx).isSuppressed collection = ctx.isSuppressed collection := by
  unfold drop
  split <;> rfl

theorem ScopeContext.Restored.drop {ctx after : ScopeContext} {c : Criteria}
    (h : (ctx.push c).2.Restored after) : ctx.Restored ((ctx.push c).1.drop after) where
  frames collection := by
    rw [ScopeGuard.frames_drop, h.frames, ← ScopeGuard.frames_drop]
    exact ScopeGuard.frames_drop_push ctx c collection
  suppressed collection hs := by
    rw [ScopeGuard.isSuppressed_drop]
    exact h.suppressed collection hs

def Restoring (call : ModelCall) : Prop :=
  ∀ {m : Model} {name : String} {args : List Value} {ctx : ScopeContext} {o : Outcome},
    call m name args ctx = some o → ctx.Restored o.context

theorem Model.restored_start (m : Model) (rs : Registries) (ctx : ScopeContext) (base : Start) :
    ctx.Restored (m.start rs ctx base).2 := by
  cases base with
  | withoutDefault => exact .suppress ctx m.collection
  | inScope => exact .refl ctx
  | fresh => exact .refl ctx
  | empty => exact .refl ctx

namespace Criteria

variable {rs : Registries} {call : ModelCall} {c : Criteria} {name : String}

theorem callWith_model (hext : c.extensions.get? name = none)
    (hname : (rs c.model.id).respondsTo name = true) (args : List Value) (ctx : ScopeContext) :
    c.callWith rs call name args ctx =
      (call c.model name args (ctx.push c).2).map fun o =>
        { o with context := (ctx.push c).1.drop o.context } := by
  simp only [callWith, hext, hname]
  rfl

theorem callWith_unknown (hext : c.extensions.get? name = none)
    (hname : (rs c.model.id).respondsTo name = false) (args : List Value) (ctx : ScopeContext) :
    c.callWith rs call name args ctx = some ⟨.error (.unknownOperation name), ctx, []⟩ := by
  simp only [callWith, hext, hname]
  rfl

theorem callWith_carried {op : ExtensionOp} (hext : c.extensions.get? name = some op)
    (args : List Value) (ctx : ScopeContext) :
    c.callWith rs call name args ctx =
      some ⟨(op.run rs.catalog args c.view).result.map c.complete, ctx,
        (op.run rs.catalog args c.view).notes⟩ := by
  simp only [callWith, hext]

theorem restored_callWith (hcall : Restoring call) {args : List Value} {ctx : ScopeContext}
    {o : Outcome} (h : c.callWith rs call name args ctx = some o) : ctx.Restored o.context := by
  cases hext : c.extensions.get? name with
  | some op =>
    rw [callWith_carried hext] at h
    obtain rfl := Option.some.inj h
    exact .refl ctx
  | none =>
    cases hname : (rs c.model.id).respondsTo name with
    | false =>
      rw [callWith_unknown hext hname] at h
      obtain rfl := Option.some.inj h
      exact .refl ctx
    | true =>
      rw [callWith_model hext hname] at h
      obtain ⟨inner, hinner, rfl⟩ := Option.map_eq_some_iff.1 h
      exact (hcall hinner).drop

end Criteria

namespace Program

variable {rs : Registries} {call : ModelCall} {ctx : ScopeContext}

/-- What follows on an outcome, with the remarks of both. -/
def goOn (o : Outcome) (rest : Option Outcome) : Option Outcome :=
  rest.map (Outcome.after o.notes)

theorem run_callModel (model : Model) (name : String) (args : List Value)
    (next : Except CriteriaError Criteria → Program) :
    (callModel model name args next).run rs call ctx =
      (call model name args ctx).bind fun o => goOn o ((next o.result).run rs call o.context) := by
  rw [run]
  cases call model name args ctx <;> rfl

theorem run_callCriteria (c : Criteria) (name : String) (args : List Value)
    (next : Except CriteriaError Criteria → Program) :
    (callCriteria c name args next).run rs call ctx =
      (c.callWith rs call name args ctx).bind fun o =>
        goOn o ((next o.result).run rs call o.context) := by
  rw [run]
  cases c.callWith rs call name args ctx <;> rfl

theorem run_withScope (c : Criteria) (block : Program)
    (next : Except CriteriaError Criteria → Program) :
    (withScope c block next).run rs call ctx =
      (block.run rs call (ctx.push c).2).bind fun o =>
        goOn o ((next o.result).run rs call ((ctx.push c).1.drop o.context)) := by
  rw [run]
  obtain ⟨guard, entry⟩ := ctx.push c
  cases hblock : block.run rs call entry <;> simp only [hblock, goOn] <;> rfl

theorem ended {first : Option Outcome} {next : Outcome → Option Outcome} {o : Outcome}
    (h : (first.bind fun inner => goOn inner (next inner)) = some o) :
    ∃ inner last, first = some inner ∧ next inner = some last ∧ o.context = last.context := by
  obtain ⟨inner, hinner, hrest⟩ := Option.bind_eq_some_iff.1 h
  obtain ⟨last, hlast, rfl⟩ := Option.map_eq_some_iff.1 hrest
  exact ⟨inner, last, hinner, hlast, rfl⟩

/-- The induction is on the program; what follows a call is one of its parts, whatever came out
of the call. -/
theorem restored_run (hcall : Restoring call) (p : Program) {o : Outcome}
    (h : p.run rs call ctx = some o) : ctx.Restored o.context := by
  induction p generalizing ctx o with
  | finish result =>
    obtain rfl := Option.some.inj h
    exact .refl ctx
  | note text next ih =>
    obtain ⟨last, hlast, rfl⟩ := Option.map_eq_some_iff.1 h
    rw [Outcome.context_after]
    exact ih hlast
  | look next ih => exact ih ctx rs.catalog h
  | start model base next ih => exact (model.restored_start rs ctx base).trans (ih _ h)
  | callModel model name args next ih =>
    rw [run_callModel] at h
    obtain ⟨inner, last, hinner, hlast, ho⟩ := ended h
    rw [ho]
    exact (hcall hinner).trans (ih _ hlast)
  | callCriteria c name args next ih =>
    rw [run_callCriteria] at h
    obtain ⟨inner, last, hinner, hlast, ho⟩ := ended h
    rw [ho]
    exact (Criteria.restored_callWith hcall hinner).trans (ih _ hlast)
  | withScope c block next ihblock ihnext =>
    rw [run_withScope] at h
    obtain ⟨inner, last, hinner, hlast, ho⟩ := ended h
    rw [ho]
    exact (ihblock hinner).drop.trans (ihnext _ hlast)

end Program

namespace Model

variable {rs : Registries} {m : Model} {name : String}

theorem callTo_scope {d : ScopeDefinition} (h : (rs m.id).scope? name = some d) (depth : Nat)
    (args : List Value) (ctx : ScopeContext) :
    m.callTo rs depth name args ctx = some ⟨m.applyScope rs ctx name args, ctx, []⟩ := by
  unfold callTo
  rw [h]

theorem callTo_unknown (hscope : (rs m.id).scope? name = none)
    (hfinder : (rs m.id).finder? name = none) (depth : Nat) (args : List Value)
    (ctx : ScopeContext) :
    m.callTo rs depth name args ctx = some ⟨.error (.unknownOperation name), ctx, []⟩ := by
  unfold callTo
  rw [hscope, hfinder]

theorem callTo_finder {f : Finder} (hscope : (rs m.id).scope? name = none)
    (hfinder : (rs m.id).finder? name = some f) (depth : Nat) (args : List Value)
    (ctx : ScopeContext) :
    m.callTo rs (depth + 1) name args ctx = (f m args).run rs (callTo rs depth) ctx := by
  rw [callTo, hscope, hfinder]

/-- A call that ended leaves its context alone, or it was that of a finder whose program ended
with one finder less to nest. -/
theorem callTo_cases {depth : Nat} {args : List Value} {ctx : ScopeContext} {o : Outcome}
    (h : m.callTo rs depth name args ctx = some o) :
    o.context = ctx ∨
      ∃ (inner : Nat) (f : Finder),
        depth = inner + 1 ∧ (f m args).run rs (callTo rs inner) ctx = some o := by
  cases hscope : (rs m.id).scope? name with
  | some d =>
    rw [callTo_scope hscope] at h
    obtain rfl := Option.some.inj h
    exact .inl rfl
  | none =>
    cases hfinder : (rs m.id).finder? name with
    | none =>
      rw [callTo_unknown hscope hfinder] at h
      obtain rfl := Option.some.inj h
      exact .inl rfl
    | some f =>
      cases depth with
      | zero =>
        rw [callTo, hscope, hfinder] at h
        cases h
      | succ inner =>
        rw [callTo_finder hscope hfinder] at h
        exact .inr ⟨inner, f, rfl, h⟩

/-- The induction is on how many finders may be inside each other. -/
theorem restoring_callTo (rs : Registries) (depth : Nat) : Restoring (callTo rs depth) := by
  induction depth with
  | zero =>
    intro m name args ctx o h
    rcases callTo_cases h with hctx | ⟨inner, f, hdepth, -⟩
    · rw [hctx]
      exact .refl ctx
    · cases hdepth
  | succ depth ih =>
    intro m name args ctx o h
    rcases callTo_cases h with hctx | ⟨inner, f, hdepth, hrun⟩
    · rw [hctx]
      exact .refl ctx
    · obtain rfl := Nat.succ.inj hdepth
      exact Program.restored_run ih (f m args) hrun

end Model

inductive Ended (rs : Registries) (depth : Nat) (ctx : ScopeContext) : Outcome → Prop
  | model {m : Model} {name : String} {args : List Value} {o : Outcome}
      (h : m.callTo rs depth name args ctx = some o) : Ended rs depth ctx o
  | criteria {c : Criteria} {name : String} {args : List Value} {o : Outcome}
      (h : c.callTo rs depth name args ctx = some o) : Ended rs depth ctx o
  | block {c : Criteria} {block : Program} {o : Outcome}
      (h : (Program.withScope c block .finish).run rs (Model.callTo rs depth) ctx = some o) :
      Ended rs depth ctx o

theorem Ended.restored {rs : Registries} {depth : Nat} {ctx : ScopeContext} {o : Outcome}
    (h : Ended rs depth ctx o) : ctx.Restored o.context := by
  have hcall : Restoring (Model.callTo rs depth) := Model.restoring_callTo rs depth
  cases h with
  | model h => exact hcall h
  | criteria h => exact Criteria.restored_callWith hcall h
  | block h => exact Program.restored_run hcall _ h

/-- What is told of an outcome to those who do not see its context. -/
def Outcome.told (o : Outcome) : Except CriteriaError Criteria × List String := (o.result, o.notes)

namespace Criteria

variable {rs : Registries} {c : Criteria} {name : String} {depth : Nat}

theorem callTo_unknown (h : c.hasOperation rs name = false) (args : List Value)
    (ctx : ScopeContext) :
    c.callTo rs depth name args ctx = some ⟨.error (.unknownOperation name), ctx, []⟩ := by
  obtain ⟨hcarried, hname⟩ := Bool.or_eq_false_iff.1 h
  have hext : c.extensions.get? name = none := by simpa [NameTable.contains] using hcarried
  exact callWith_unknown hext hname args ctx

theorem told_callTo_finder {f : Finder} (hext : c.extensions.get? name = none)
    (hscope : (rs c.model.id).scope? name = none)
    (hfinder : (rs c.model.id).finder? name = some f) (args : List Value) (ctx : ScopeContext) :
    (c.callTo rs (depth + 1) name args ctx).map Outcome.told =
      ((f c.model args).run rs (Model.callTo rs depth) (ctx.push c).2).map Outcome.told := by
  have hname : (rs c.model.id).respondsTo name = true := by
    have hmem : (rs c.model.id).finders.contains name = true :=
      Option.isSome_iff_exists.2 ⟨f, hfinder⟩
    rw [Registry.respondsTo, hmem, Bool.or_true]
  rw [callTo, callWith_model hext hname, Model.callTo_finder hscope hfinder, Option.map_map]
  rfl

end Criteria

theorem Program.told_withScope {rs : Registries} {call : ModelCall} (c : Criteria)
    (block : Program) (ctx : ScopeContext) :
    ((withScope c block .finish).run rs call ctx).map Outcome.told =
      (block.run rs call (ctx.push c).2).map Outcome.told := by
  rw [run_withScope]
  cases block.run rs call (ctx.push c).2 with
  | none => rfl
  | some o => simp [goOn, run, Outcome.told, Outcome.after]

/-- Whatever finders do, a call or a block that comes to an end leaves every stack as it was. What
runs under a frame begins with it on top. -/
theorem stacks_restored (rs : Registries) (depth : Nat) (ctx : ScopeContext) :
    (∀ o, Ended rs depth ctx o →
      (∀ collection, o.context.frames collection = ctx.frames collection ∧
        o.context.depth collection = ctx.depth collection ∧
        ∀ records, o.context.top? records collection = ctx.top? records collection ∧
          (o.context.pop? records collection).map Prod.fst =
            (ctx.pop? records collection).map Prod.fst) ∧
      ∀ collection, ctx.isSuppressed collection = true →
        o.context.isSuppressed collection = true) ∧
    (∀ (c : Criteria) (name : String) (args : List Value), c.hasOperation rs name = false →
      c.callTo rs depth name args ctx = some ⟨.error (.unknownOperation name), ctx, []⟩) ∧
    ∀ c : Criteria, ∃ entry, ctx.Entered c entry ∧
      entry.depth c.model.collection = ctx.depth c.model.collection + 1 ∧
      entry.top? c.model.records c.model.collection = some c ∧
      (∀ (name : String) (args : List Value) (f : Finder), c.extensions.get? name = none →
        (rs c.model.id).scope? name = none → (rs c.model.id).finder? name = some f →
        (c.callTo rs (depth + 1) name args ctx).map Outcome.told =
          ((f c.model args).run rs (Model.callTo rs depth) entry).map Outcome.told) ∧
      ∀ block : Program,
        ((Program.withScope c block .finish).run rs (Model.callTo rs depth) ctx).map Outcome.told =
          (block.run rs (Model.callTo rs depth) entry).map Outcome.told := by
  refine ⟨fun o h => ⟨fun collection => ?_, h.restored.suppressed⟩,
    fun c name args hname => Criteria.callTo_unknown hname args ctx, fun c => ?_⟩
  · have hr : ctx.Restored o.context := h.restored
    exact ⟨hr.frames collection, hr.depth collection,
      fun records => ⟨hr.top? records collection, hr.pop? records collection⟩⟩
  · have hentry : ctx.Entered c (ctx.push c).2 := ScopeContext.entered_push ctx c
    exact ⟨(ctx.push c).2, hentry, hentry.depth, hentry.top?,
      fun name args f hext hscope hfinder =>
        Criteria.told_callTo_finder hext hscope hfinder args ctx,
      fun block => Program.told_withScope c block ctx⟩

/-- A finder that calls itself under a second frame, once for each argument, and then gives up, in a
context with a frame. -/
theorem stacks_restored_again :
    let people : Model := { id := 0, collection := "people" }
    let again : Finder := fun m args =>
      match args with
      | [] => .finish (.error .emptySelector)
      | _ :: rest => .start m .withoutDefault fun c =>
        .withScope c (.callCriteria c "again" rest .finish) .finish
    let rs : Registries := fun _ => { finders := [("again", again)] }
    let outer : Criteria := { model := people, query := { selector := "(a:1)" } }
    let ctx := (({} : ScopeContext).push outer).2
    people.empty.callTo rs 2 "again" [.int 1, .int 2] ctx = none ∧
    ∃ o, people.empty.callTo rs 3 "again" [.int 1, .int 2] ctx = some o ∧
      o.context.frames "people" = [outer] ∧ o.context.frames "pets" = [] ∧
      (o.context.top? .text "people").map Criteria.selector = some "(a:1)" ∧
      o.context.isSuppressed "people" = true := by
  intro people again rs outer ctx
  have hends : (people.empty.callTo rs 3 "again" [.int 1, .int 2] ctx).map
      (fun o => o.context.isSuppressed "people") = some true := by decide +kernel
  obtain ⟨o, ho, hleft⟩ := Option.map_eq_some_iff.1 hends
  obtain ⟨hframes, -⟩ := (stacks_restored rs 3 ctx).1 o (.criteria ho)
  refine ⟨Option.isNone_iff_eq_none.1 (by decide +kernel), o, ho, (hframes "people").1,
    (hframes "pets").1, ?_, hleft⟩
  rw [((hframes "people").2.2 .text).1]
  rfl

end SearchCriteria
