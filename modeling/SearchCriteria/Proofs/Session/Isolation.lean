import Mathlib.Data.Set.Insert
import Mathlib.Logic.Function.Basic
import Mathlib.Logic.Pairwise
import SearchCriteria.Proofs.Scope.Continuation
import SearchCriteria.Proofs.Session.Interleaving

/-! Isolation. Chains that share a session and own nothing together take turns in any order, blocks
of one while blocks of another are open; each of them observes what it observes alone. Inside one
context a step on one collection leaves the other collections as they are. -/
namespace SearchCriteria

namespace ScopeContext

/-- A step on one collection, with the context after it. A call is a step on its collection if it
calls a scope; finders may go anywhere. -/
inductive StepOn (rs : Registries) (collection : String) (ctx : ScopeContext) :
    ScopeContext → Prop
  | push {c : Criteria} (h : c.model.collection = collection) :
      StepOn rs collection ctx (ctx.push c).2
  | pop {records : RecordKind} {c : Criteria} {after : ScopeContext}
      (h : ctx.pop? records collection = some (c, after)) : StepOn rs collection ctx after
  | drop {guard : ScopeGuard} (h : guard.collection = collection) :
      StepOn rs collection ctx (guard.drop ctx)
  | suppress : StepOn rs collection ctx (ctx.suppress collection)
  | start {m : Model} (h : m.collection = collection) (base : Start) :
      StepOn rs collection ctx (m.start rs ctx base).2
  | callModel {m : Model} {depth : Nat} {name : String} {args : List Value} {o : Outcome}
      {d : ScopeDefinition} (h : m.collection = collection)
      (hscope : (rs m.id).scope? name = some d) (ho : m.callTo rs depth name args ctx = some o) :
      StepOn rs collection ctx o.context
  | callCriteria {c : Criteria} {depth : Nat} {name : String} {args : List Value} {o : Outcome}
      {d : ScopeDefinition} (h : c.model.collection = collection)
      (hscope : (rs c.model.id).scope? name = some d)
      (ho : c.callTo rs depth name args ctx = some o) : StepOn rs collection ctx o.context

def SameAt (collection : String) (before after : ScopeContext) : Prop :=
  after.frames collection = before.frames collection ∧
    after.isSuppressed collection = before.isSuppressed collection

theorem sameAt_suppress {collection other : String} (h : other ≠ collection)
    (ctx : ScopeContext) : SameAt other ctx (ctx.suppress collection) := by
  refine ⟨frames_suppress ctx collection other, ?_⟩
  rw [isSuppressed_suppress, beq_eq_false_iff_ne.2 h, Bool.false_or]

/-- The scope finds the criteria in scope, and that is dropped again. -/
theorem sameAt_callTo_scope {rs : Registries} {c : Criteria} {name : String} {d : ScopeDefinition}
    (hscope : (rs c.model.id).scope? name = some d) {depth : Nat} {args : List Value}
    {ctx : ScopeContext} {o : Outcome} (h : c.callTo rs depth name args ctx = some o)
    (collection : String) : SameAt collection ctx o.context := by
  cases hext : c.extensions.get? name with
  | some op =>
    rw [Criteria.callTo, Criteria.callWith_carried hext] at h
    obtain rfl := Option.some.inj h
    exact ⟨rfl, rfl⟩
  | none =>
    rw [Criteria.callTo_scope hext hscope] at h
    obtain rfl := Option.some.inj h
    exact ⟨ScopeGuard.frames_drop_push ctx c collection,
      ScopeGuard.isSuppressed_drop _ _ collection⟩

theorem StepOn.sameAt {rs : Registries} {collection other : String} {ctx after : ScopeContext}
    (h : ctx.StepOn rs collection after) (hne : other ≠ collection) : SameAt other ctx after := by
  cases h with
  | push h =>
    subst h
    exact ⟨(entered_push ctx _).others other hne, rfl⟩
  | pop h =>
    obtain ⟨top, -, heq⟩ := Option.map_eq_some_iff.1 h
    obtain ⟨-, rfl⟩ := Prod.mk.inj heq
    refine ⟨?_, rfl⟩
    rw [frames_setFrames, if_neg hne]
  | @drop guard h =>
    subst h
    refine ⟨?_, ScopeGuard.isSuppressed_drop guard ctx other⟩
    rw [ScopeGuard.frames_drop, if_neg hne]
  | suppress => exact sameAt_suppress hne ctx
  | @start m h base =>
    subst h
    cases base with
    | withoutDefault => exact sameAt_suppress hne ctx
    | inScope => exact ⟨rfl, rfl⟩
    | fresh => exact ⟨rfl, rfl⟩
    | empty => exact ⟨rfl, rfl⟩
  | callModel h hscope ho =>
    rw [Model.callTo_scope hscope] at ho
    obtain rfl := Option.some.inj ho
    exact ⟨rfl, rfl⟩
  | callCriteria h hscope ho => exact sameAt_callTo_scope hscope ho other

end ScopeContext

/-- Chains of calls in one session: what each has to do, and what it has observed. -/
structure Chains (ι : Type) where
  session : Session
  todo : ι → List Pending
  seen : ι → List Observation

namespace Chains

variable {ι : Type}

def start (s : Session) (script : ι → List Command) : Chains ι where
  session := s
  todo who := (script who).map Pending.command
  seen _ := []

/-- Every chain has the rest of what it is to observe still before it, unless it is disturbed. -/
structure OnTrack (names : ι → Names) (whole : ι → List Observation) (x : Chains ι) : Prop where
  quiet : x.session.world.journal = []
  within : ∀ who, ∀ p ∈ x.todo who, p.Within (names who)
  whole : ∀ who, x.seen who ++ x.session.finish (x.todo who) = whole who

variable {names : ι → Names} {whole : ι → List Observation}

theorem onTrack_start {s : Session} {script : ι → List Command} (hs : s.world.journal = [])
    (hscript : ∀ who, ∀ command ∈ script who, command.Within (names who)) :
    (start s script).OnTrack names fun who => Answer.spreadAll (s.performAll (script who)).1 where
  quiet := hs
  within who p hp := by
    obtain ⟨command, hmem, rfl⟩ := List.mem_map.1 hp
    exact .command (hscript who command hmem)
  whole who := by
    have h := s.finish_commands (script who) []
    rw [List.append_nil, Session.finish, List.append_nil] at h
    exact h

variable [DecidableEq ι]

def turn (x : Chains ι) (who : ι) : Chains ι :=
  match x.todo who with
  | [] => x
  | p :: rest =>
    { session := (x.session.turn p).session
      todo := Function.update x.todo who ((x.session.turn p).next ++ rest)
      seen := Function.update x.seen who (x.seen who ++ (x.session.turn p).seen) }

def run (x : Chains ι) (schedule : List ι) : Chains ι := schedule.foldl turn x

variable {x : Chains ι} {who other : ι} {p : Pending} {rest : List Pending}

theorem turn_nil (h : x.todo who = []) : x.turn who = x := by
  rw [turn, h]

theorem session_turn (h : x.todo who = p :: rest) :
    (x.turn who).session = (x.session.turn p).session := by
  rw [turn, h]

theorem todo_turn (h : x.todo who = p :: rest) :
    (x.turn who).todo who = (x.session.turn p).next ++ rest := by
  rw [turn, h]
  exact Function.update_self ..

theorem seen_turn (h : x.todo who = p :: rest) :
    (x.turn who).seen who = x.seen who ++ (x.session.turn p).seen := by
  rw [turn, h]
  exact Function.update_self ..

theorem todo_turn_of_ne (h : other ≠ who) : (x.turn who).todo other = x.todo other := by
  rw [turn]
  cases x.todo who with
  | nil => rfl
  | cons p rest => exact Function.update_of_ne h ..

theorem seen_turn_of_ne (h : other ≠ who) : (x.turn who).seen other = x.seen other := by
  rw [turn]
  cases x.todo who with
  | nil => rfl
  | cons p rest => exact Function.update_of_ne h ..

/-- A turn brings its own chain forward, and the others do not notice it. -/
theorem OnTrack.turn (hnames : Pairwise fun a b => (names a).Apart (names b))
    (h : x.OnTrack names whole) (who : ι) : (x.turn who).OnTrack names whole := by
  cases htodo : x.todo who with
  | nil => rwa [turn_nil htodo]
  | cons p rest =>
    have hp : p.Within (names who) := h.within who p (htodo ▸ List.mem_cons_self)
    have hquiet : (x.turn who).session.world.journal = [] := by
      rw [session_turn htodo]
      exact Session.journal_turn h.quiet p
    refine ⟨hquiet, fun other q hq => ?_, fun other => ?_⟩
    · by_cases hother : other = who
      · subst hother
        rw [todo_turn htodo] at hq
        rcases List.mem_append.1 hq with hq | hq
        · exact Session.within_turn x.session hp q hq
        · exact h.within other q (htodo ▸ List.mem_cons_of_mem p hq)
      · rw [todo_turn_of_ne hother] at hq
        exact h.within other q hq
    · have hwhole := h.whole other
      by_cases hother : other = who
      · subst hother
        rw [htodo, Session.finish_turn, ← List.append_assoc] at hwhole
        rw [seen_turn htodo, todo_turn htodo, session_turn htodo, hwhole]
      · have hspares : x.session.Spares (names other) (x.turn who).session := by
          rw [session_turn htodo]
          exact Session.spares_turn x.session (hnames (Ne.symm hother)) hp
        rw [seen_turn_of_ne hother, todo_turn_of_ne hother,
          ← (hspares.agrees h.quiet hquiet).finish (h.within other), hwhole]

theorem OnTrack.run (hnames : Pairwise fun a b => (names a).Apart (names b))
    (h : x.OnTrack names whole) (schedule : List ι) : (x.run schedule).OnTrack names whole := by
  induction schedule generalizing x with
  | nil => exact h
  | cons who rest ih => exact ih (h.turn hnames who)

theorem turnsAll_turn (x : Chains ι) (who : ι) :
    Pending.turnsAll ((x.turn who).todo who) ≤ Pending.turnsAll (x.todo who) - 1 := by
  cases htodo : x.todo who with
  | nil =>
    rw [turn_nil htodo, htodo]
    exact Nat.le_refl 0
  | cons p rest =>
    have hpaid := Session.turnsAll_turn x.session p
    rw [todo_turn htodo, Pending.turnsAll_append, Pending.turnsAll]
    omega

theorem turnsAll_run (x : Chains ι) (schedule : List ι) (who : ι) :
    Pending.turnsAll ((x.run schedule).todo who) ≤
      Pending.turnsAll (x.todo who) - schedule.count who := by
  induction schedule generalizing x with
  | nil => exact Nat.le_refl _
  | cons first rest ih =>
    have hrest := ih (x.turn first)
    by_cases h : who = first
    · subst h
      have hfirst := turnsAll_turn x who
      rw [List.count_cons_self]
      exact hrest.trans (by omega)
    · rw [todo_turn_of_ne h] at hrest
      rwa [List.count_cons_of_ne (Ne.symm h)]

/-- Chains that register nothing and own no context or criteria together observe what each observes
alone, however their blocks overlap. Steps on one collection leave the frames of the others alone.
-/
theorem isolated (s : Session) (names : ι → Names) (script : ι → List Command)
    (hs : s.world.journal = []) (hnames : Pairwise fun a b => (names a).Apart (names b))
    (hscript : ∀ who, ∀ command ∈ script who, command.Within (names who)) :
    (∀ (schedule : List ι) (who : ι),
      ((start s script).run schedule).seen who <+: Answer.spreadAll (s.performAll (script who)).1 ∧
      (Command.turnsAll (script who) ≤ schedule.count who →
        ((start s script).run schedule).seen who =
          Answer.spreadAll (s.performAll (script who)).1)) ∧
    -- Inside one context, collections keep apart.
    ∀ (rs : Registries) (collection other : String) (ctx after : ScopeContext),
      ctx.StepOn rs collection after → other ≠ collection →
        after.depth other = ctx.depth other ∧
        (∀ records, after.top? records other = ctx.top? records other) ∧
        after.isSuppressed other = ctx.isSuppressed other := by
  refine ⟨fun schedule who => ?_, fun rs collection other ctx after hstep hne => ?_⟩
  · have htrack := (onTrack_start hs hscript).run hnames schedule
    have hwhole := htrack.whole who
    refine ⟨⟨_, hwhole⟩, fun hturns => ?_⟩
    have hleft := turnsAll_run (start s script) schedule who
    have hstart : Pending.turnsAll ((start s script).todo who) = Command.turnsAll (script who) :=
      Pending.turnsAll_commands (script who)
    have hdone : ((start s script).run schedule).todo who = [] :=
      Pending.eq_nil_of_turnsAll (by omega)
    rw [hdone, Session.finish, List.append_nil] at hwhole
    exact hwhole
  · obtain ⟨hframes, hsuppressed⟩ := hstep.sameAt hne
    refine ⟨?_, fun records => ?_, hsuppressed⟩
    · rw [ScopeContext.depth, hframes, ScopeContext.depth]
    · rw [ScopeContext.top?, hframes, ScopeContext.top?]

/-- The frames of two chains on one collection, each with a finder called under it; the second chain
leaves the default scope out and pops its frame before its block is left. -/
theorem isolated_joe_ann :
    let people : Model := { id := 0, collection := "people" }
    let pets : Model := { id := 1, collection := "pets" }
    let directory : Directory := fun name => if name = "people" then some 0 else none
    let registry : Registry :=
      { defaults := [.fixed { selector := "(active:true)" }]
        finders := [("mine", ({} : FinderRecipe).finder directory)] }
    let s : Session :=
      { world := { models := [{ model := people, registry }, { model := pets }] }
        models := [("people", people), ("pets", pets)] }
    let names : Bool → Names := fun joe => if joe then ⟨"joe", {"j"}⟩ else ⟨"ann", {"a", "b"}⟩
    let script : Bool → List Command := fun joe =>
      if joe then
        [.make .inScope "people" "joe" "j", .chain "j" (.filterText "name:Joe"),
          .withScope "joe" "j"
            [.callModel "people" "joe" "mine" [] "j", .depth "joe" "people"] .finished]
      else
        [.make .withoutDefault "people" "ann" "a", .chain "a" (.filterText "name:Ann"),
          .withScope "ann" "a"
            [.callModel "people" "ann" "mine" [] "a", .pop "ann" "people" "b"] .unwound,
          .depth "ann" "people"]
    let schedule := [true, false, true, false, true, false, false, true, false, true, true, false,
      false]
    let seen := ((start s script).run schedule).seen
    let ctx := (({} : ScopeContext).push people.empty).2
    let after := (ctx.push pets.empty).2
    s.world.journal = [] ∧ (Pairwise fun a b => (names a).Apart (names b)) ∧
    (∀ who, ∀ command ∈ script who, command.Within (names who)) ∧
    (∀ who, Command.turnsAll (script who) ≤ schedule.count who) ∧
    (∀ who, seen who = Answer.spreadAll (s.performAll (script who)).1) ∧
    (seen true).flatMap Prod.snd =
      [.note "finder depth=1 suppressed=false top=((active:true)) AND (name:Joe) args=0"] ∧
    (seen false).flatMap Prod.snd =
      [.note "finder depth=1 suppressed=true top=(name:Ann) args=0"] ∧
    ctx.StepOn s.registries "pets" after ∧ after.depth "people" = ctx.depth "people" := by
  intro people pets directory registry s names script schedule seen ctx after
  have hnames : Pairwise fun a b => (names a).Apart (names b) := by
    intro a b hab
    match a, b, hab with
    | true, false, _ => exact ⟨by decide, by simp [names]⟩
    | false, true, _ => exact ⟨by decide, by simp [names]⟩
  have hscript : ∀ who, ∀ command ∈ script who, command.Within (names who) := by
    intro who
    cases who with
    | true =>
      have hj : "j" ∈ (names true).criteria := rfl
      simp only [script, if_true, List.forall_mem_cons]
      refine ⟨.make hj, .chain hj, .withScope hj ?_, List.forall_mem_nil _⟩
      simp only [List.forall_mem_cons]
      exact ⟨.callModel hj, .depth, List.forall_mem_nil _⟩
    | false =>
      have ha : "a" ∈ (names false).criteria := .inl rfl
      have hb : "b" ∈ (names false).criteria := .inr rfl
      simp only [script, Bool.false_eq_true, if_false, List.forall_mem_cons]
      refine ⟨.make ha, .chain ha, .withScope ha ?_, .depth, List.forall_mem_nil _⟩
      simp only [List.forall_mem_cons]
      exact ⟨.callModel ha, .pop hb, List.forall_mem_nil _⟩
  have hturns : ∀ who, Command.turnsAll (script who) ≤ schedule.count who := by decide
  have hstep : ctx.StepOn s.registries "pets" after := .push rfl
  have hisolated := isolated s names script rfl hnames hscript
  refine ⟨rfl, hnames, hscript, hturns, fun who => (hisolated.1 schedule who).2 (hturns who),
    ?_, ?_, hstep, (hisolated.2 s.registries "pets" "people" ctx after hstep (by decide)).1⟩
  · decide +kernel
  · decide +kernel

end Chains
end SearchCriteria
