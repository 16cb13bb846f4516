import Mathlib.Data.Set.Defs
import SearchCriteria.Session.Perform

/-! Chains of calls that share a session. A chain has one context and some criteria for its own; the
models and what they have registered belong to all. A command of a chain has the same answer in
every session where what the chain owns is the same, and leaves alone what another chain owns. -/
namespace SearchCriteria

structure Names where
  context : String
  criteria : Set String

structure Names.Apart (k l : Names) : Prop where
  context : k.context ≠ l.context
  criteria : ∀ name ∈ k.criteria, name ∉ l.criteria

/-- The commands of a chain: they register nothing, ask no backend and no store, and name no
context and no criteria but those of the chain. -/
inductive Command.Within (k : Names) : Command → Prop
  | make {base : Start} {model target : String} (h : target ∈ k.criteria) :
      Within k (.make base model k.context target)
  | fromQuery {model target : String} {steps : List StepRecipe} (h : target ∈ k.criteria) :
      Within k (.fromQuery model steps target)
  | startWith {model target : String} {step : StepRecipe} (h : target ∈ k.criteria) :
      Within k (.startWith model step target)
  | applyScope {model name target : String} {args : List Operand} (h : target ∈ k.criteria) :
      Within k (.applyScope model k.context name args target)
  | callModel {model name target : String} {args : List Operand} (h : target ∈ k.criteria) :
      Within k (.callModel model k.context name args target)
  | fork {on target : String} (hon : on ∈ k.criteria) (h : target ∈ k.criteria) :
      Within k (.fork on target)
  | chain {on : String} {step : StepRecipe} (hon : on ∈ k.criteria) : Within k (.chain on step)
  | call {on name : String} {args : List Operand} (hon : on ∈ k.criteria) :
      Within k (.call on k.context name args)
  | mergeCriteria {on other : String} (hon : on ∈ k.criteria) (hother : other ∈ k.criteria) :
      Within k (.mergeCriteria on other)
  | withExtension {on : String} {extension : List (String × ExtensionRecipe)}
      (hon : on ∈ k.criteria) : Within k (.withExtension on extension)
  | state {on : String} (hon : on ∈ k.criteria) : Within k (.state on)
  | response {on : String} (hon : on ∈ k.criteria) : Within k (.response on)
  | hasOperation {on name : String} (hon : on ∈ k.criteria) : Within k (.hasOperation on name)
  | modelOf {on : String} (hon : on ∈ k.criteria) : Within k (.modelOf on)
  | describe {on : String} (hon : on ∈ k.criteria) : Within k (.describe on)
  | push {on : String} (hon : on ∈ k.criteria) : Within k (.push k.context on)
  | pop {collection target : String} (h : target ∈ k.criteria) :
      Within k (.pop k.context collection target)
  | top {collection : String} : Within k (.top k.context collection)
  | popForeign {collection : String} : Within k (.popForeign k.context collection)
  | topForeign {collection : String} : Within k (.topForeign k.context collection)
  | depth {collection : String} : Within k (.depth k.context collection)
  | suppress {collection : String} : Within k (.suppress k.context collection)
  | isSuppressed {collection : String} : Within k (.isSuppressed k.context collection)
  | describeContext : Within k (.describeContext k.context)
  | withScope {on : String} {block : List Command} {exit : BlockExit} (hon : on ∈ k.criteria)
      (hblock : ∀ command ∈ block, Within k command) :
      Within k (.withScope k.context on block exit)

namespace Session

/-- What the chain owns is the same in both sessions, and so is what belongs to all. -/
structure Agrees (s : Session) (k : Names) (t : Session) : Prop where
  world : s.world = t.world
  models : s.models = t.models
  nestingLimit : s.nestingLimit = t.nestingLimit
  context : s.context k.context = t.context k.context
  criteria : ∀ name ∈ k.criteria, s.criteria.get? name = t.criteria.get? name

def Alike (k : Names) (x y : Answer × Session) : Prop := x.1 = y.1 ∧ x.2.Agrees k y.2

theorem context_setContext (s : Session) (name other : String) (ctx : ScopeContext) :
    (s.setContext name ctx).context other = if other = name then ctx else s.context other := by
  rw [context, setContext, NameTable.get?_set]
  split <;> rfl

namespace Agrees

variable {k : Names} {s t u : Session}

theorem refl (k : Names) (s : Session) : s.Agrees k s := ⟨rfl, rfl, rfl, rfl, fun _ _ => rfl⟩

theorem trans (hst : s.Agrees k t) (htu : t.Agrees k u) : s.Agrees k u where
  world := hst.world.trans htu.world
  models := hst.models.trans htu.models
  nestingLimit := hst.nestingLimit.trans htu.nestingLimit
  context := hst.context.trans htu.context
  criteria name h := (hst.criteria name h).trans (htu.criteria name h)

theorem directory (h : s.Agrees k t) : s.directory = t.directory := by
  funext name
  simp only [Session.directory, h.models]

theorem facts (h : s.Agrees k t) : s.facts = t.facts := by
  rw [Session.facts, h.directory, h.world, Session.facts]

theorem registries (h : s.Agrees k t) : s.registries = t.registries := by
  rw [Session.registries, h.world, Session.registries]

theorem evalArgs (h : s.Agrees k t) : s.evalArgs = t.evalArgs := by
  funext args
  rw [Session.evalArgs, h.facts, Session.evalArgs]

theorem evalStep (h : s.Agrees k t) : s.evalStep = t.evalStep := by
  funext step
  rw [Session.evalStep, h.facts, Session.evalStep]

theorem setContext (h : s.Agrees k t) (name : String) (ctx : ScopeContext) :
    (s.setContext name ctx).Agrees k (t.setContext name ctx) where
  world := h.world
  models := h.models
  nestingLimit := h.nestingLimit
  context := by rw [context_setContext, context_setContext, h.context]
  criteria := h.criteria

theorem setWorld (h : s.Agrees k t) (w : World) : (s.setWorld w).Agrees k (t.setWorld w) where
  world := rfl
  models := h.models
  nestingLimit := h.nestingLimit
  context := h.context
  criteria := h.criteria

theorem lose (h : s.Agrees k t) (name : String) : (s.lose name).Agrees k (t.lose name) where
  world := h.world
  models := h.models
  nestingLimit := h.nestingLimit
  context := h.context
  criteria other hother := by
    simp only [Session.lose, NameTable.get?_remove, h.criteria other hother]

theorem keep (h : s.Agrees k t) (name : String) (c : Criteria) :
    Alike k (s.keep name c) (t.keep name c) where
  left := rfl
  right :=
    { world := h.world
      models := h.models
      nestingLimit := h.nestingLimit
      context := h.context
      criteria := fun other hother => by
        simp only [Session.keep, NameTable.get?_set, h.criteria other hother] }

theorem keepResult (h : s.Agrees k t) (name : String) (r : Except CriteriaError Criteria) :
    Alike k (s.keepResult name r) (t.keepResult name r) := by
  cases r with
  | ok c => exact h.keep name c
  | error e => exact ⟨rfl, h⟩

theorem keepOutcome (h : s.Agrees k t) (context target : String) (o : Option Outcome) :
    Alike k (s.keepOutcome context target o) (t.keepOutcome context target o) := by
  cases o with
  | none => exact ⟨rfl, h⟩
  | some o =>
    simp only [Session.keepOutcome, h.world]
    exact ((h.setContext context o.context).setWorld _).keepResult target o.result

theorem withModel (h : s.Agrees k t) {name : String} {f g : Model → Answer × Session}
    (hfg : ∀ m, Alike k (f m) (g m)) : Alike k (s.withModel name f) (t.withModel name g) := by
  rw [Session.withModel, Session.withModel, h.models]
  cases t.models.get? name with
  | some m => exact hfg m
  | none => exact ⟨rfl, h⟩

theorem withCriteria (h : s.Agrees k t) {name : String} (hname : name ∈ k.criteria)
    {f g : Criteria → Answer × Session} (hfg : ∀ c, Alike k (f c) (g c)) :
    Alike k (s.withCriteria name f) (t.withCriteria name g) := by
  rw [Session.withCriteria, Session.withCriteria, h.criteria name hname]
  cases t.criteria.get? name with
  | some c => exact hfg c
  | none => exact ⟨rfl, h⟩

theorem takeCriteria (h : s.Agrees k t) {name : String} (hname : name ∈ k.criteria)
    {f g : Criteria → Session → Answer × Session}
    (hfg : ∀ c {s t : Session}, s.Agrees k t → Alike k (f c s) (g c t)) :
    Alike k (s.takeCriteria name f) (t.takeCriteria name g) := by
  rw [Session.takeCriteria, Session.takeCriteria, h.criteria name hname]
  cases t.criteria.get? name with
  | some c => exact hfg c (h.lose name)
  | none => exact ⟨rfl, h⟩

/-- The answer to a command of a chain, and what the chain owns afterwards, come from what it owned
before. -/
theorem performSimple (h : s.Agrees k t) {command : Command} (hc : command.Within k) :
    Alike k (s.performSimple command) (t.performSimple command) := by
  cases hc with
  | make =>
    refine h.withModel fun m => ?_
    rw [h.registries, h.context]
    exact (h.setContext _ _).keep _ _
  | fromQuery =>
    refine h.withModel fun m => ?_
    rw [h.facts]
    exact h.keep _ _
  | startWith =>
    refine h.withModel fun m => ?_
    rw [h.registries, h.evalStep]
    exact h.keep _ _
  | applyScope =>
    refine h.withModel fun m => ?_
    rw [h.registries, h.context, h.evalArgs]
    exact h.keepResult _ _
  | callModel =>
    refine h.withModel fun m => ?_
    rw [h.registries, h.nestingLimit, h.context, h.evalArgs]
    exact h.keepOutcome _ _ _
  | fork hon => exact h.withCriteria hon fun c => h.keep _ _
  | chain hon =>
    refine h.takeCriteria hon fun c {s t} h => ?_
    rw [h.evalStep]
    exact h.keep _ _
  | call hon =>
    refine h.takeCriteria hon fun c {s t} h => ?_
    rw [h.registries, h.nestingLimit, h.context, h.evalArgs]
    exact h.keepOutcome _ _ _
  | mergeCriteria hon hother =>
    exact h.takeCriteria hon fun c {s t} h => h.withCriteria hother fun o => h.keep _ _
  | withExtension hon =>
    refine h.takeCriteria hon fun c {s t} h => ?_
    rw [h.directory]
    exact h.keep _ _
  | state hon | response hon | modelOf hon | describe hon =>
    exact h.withCriteria hon fun c => ⟨rfl, h⟩
  | hasOperation hon =>
    refine h.withCriteria hon fun c => ?_
    rw [h.registries]
    exact ⟨rfl, h⟩
  | push hon =>
    refine h.takeCriteria hon fun c {s t} h => ?_
    rw [h.context]
    exact ⟨rfl, h.setContext _ _⟩
  | @pop collection target =>
    simp only [Session.performSimple, h.context]
    cases (t.context k.context).pop? .text collection with
    | some popped => exact (h.setContext _ _).keep _ _
    | none => exact ⟨rfl, h⟩
  | @popForeign collection =>
    simp only [Session.performSimple, h.context]
    cases (t.context k.context).pop? .bytes collection with
    | some popped => exact ⟨rfl, h.setContext _ _⟩
    | none => exact ⟨rfl, h⟩
  | suppress =>
    simp only [Session.performSimple, h.context]
    exact ⟨rfl, h.setContext _ _⟩
  | top | topForeign | depth | isSuppressed | describeContext =>
    simp only [Session.performSimple, h.context]
    exact ⟨rfl, h⟩
  | withScope => exact ⟨rfl, h⟩

end Agrees

/-- Once the journal is taken, the owner of the names finds the session as it was. -/
def Spares (s : Session) (k : Names) (t : Session) : Prop := s.drain.2.Agrees k t.drain.2

namespace Spares

variable {k : Names} {s : Session} {name : String}

theorem refl (k : Names) (s : Session) : s.Spares k s := Agrees.refl k s.drain.2

theorem setContext (s : Session) (h : name ≠ k.context) (ctx : ScopeContext) :
    s.Spares k (s.setContext name ctx) where
  world := rfl
  models := rfl
  nestingLimit := rfl
  context := by
    have hkept := context_setContext s name k.context ctx
    rw [if_neg h.symm] at hkept
    exact hkept.symm
  criteria _ _ := rfl

theorem lose (s : Session) (h : name ∉ k.criteria) : s.Spares k (s.lose name) where
  world := rfl
  models := rfl
  nestingLimit := rfl
  context := rfl
  criteria other hother := by
    have hne : other ≠ name := ne_of_mem_of_not_mem hother h
    have hkept := NameTable.get?_remove name other s.criteria
    rw [if_neg hne] at hkept
    exact hkept.symm

theorem keep (s : Session) (h : name ∉ k.criteria) (c : Criteria) :
    s.Spares k (s.keep name c).2 where
  world := rfl
  models := rfl
  nestingLimit := rfl
  context := rfl
  criteria other hother := by
    have hne : other ≠ name := ne_of_mem_of_not_mem hother h
    have hkept := NameTable.get?_set name other c s.criteria
    rw [if_neg hne] at hkept
    exact hkept.symm

theorem logNotes (s : Session) (k : Names) (notes : List String) :
    s.Spares k (s.setWorld (s.world.logNotes notes)) := ⟨rfl, rfl, rfl, rfl, fun _ _ => rfl⟩

theorem keepResult (s : Session) (h : name ∉ k.criteria) (r : Except CriteriaError Criteria) :
    s.Spares k (s.keepResult name r).2 := by
  cases r with
  | ok c => exact keep s h c
  | error e => exact refl k s

theorem keepOutcome (s : Session) {context : String} (hcontext : context ≠ k.context)
    (h : name ∉ k.criteria) (o : Option Outcome) :
    s.Spares k (s.keepOutcome context name o).2 := by
  cases o with
  | none => exact refl k s
  | some o =>
    have hset := setContext s hcontext o.context
    have hlog := logNotes (s.setContext context o.context) k o.notes
    exact (hset.trans hlog).trans (keepResult _ h o.result)

theorem withModel {model : String} {f : Model → Answer × Session}
    (hf : ∀ m, s.Spares k (f m).2) : s.Spares k (s.withModel model f).2 := by
  rw [Session.withModel]
  cases s.models.get? model with
  | some m => exact hf m
  | none => exact refl k s

theorem withCriteria {f : Criteria → Answer × Session} (hf : ∀ c, s.Spares k (f c).2) :
    s.Spares k (s.withCriteria name f).2 := by
  rw [Session.withCriteria]
  cases s.criteria.get? name with
  | some c => exact hf c
  | none => exact refl k s

theorem takeCriteria (h : name ∉ k.criteria) {f : Criteria → Session → Answer × Session}
    (hf : ∀ c (s : Session), s.Spares k (f c s).2) : s.Spares k (s.takeCriteria name f).2 := by
  rw [Session.takeCriteria]
  cases s.criteria.get? name with
  | some c => exact (lose s h).trans (hf c (s.lose name))
  | none => exact refl k s

end Spares

theorem spares_performSimple (s : Session) {k l : Names} (hkl : k.Apart l) {command : Command}
    (hc : command.Within k) : s.Spares l (s.performSimple command).2 := by
  have hctx : k.context ≠ l.context := hkl.context
  have hnot : ∀ {name : String}, name ∈ k.criteria → name ∉ l.criteria := hkl.criteria _
  cases hc with
  | make h =>
    exact Spares.withModel fun m => (Spares.setContext s hctx _).trans (Spares.keep _ (hnot h) _)
  | fromQuery h => exact Spares.withModel fun m => Spares.keep s (hnot h) _
  | startWith h => exact Spares.withModel fun m => Spares.keep s (hnot h) _
  | applyScope h => exact Spares.withModel fun m => Spares.keepResult s (hnot h) _
  | callModel h => exact Spares.withModel fun m => Spares.keepOutcome s hctx (hnot h) _
  | fork hon h => exact Spares.withCriteria fun c => Spares.keep s (hnot h) _
  | chain hon => exact Spares.takeCriteria (hnot hon) fun c s => Spares.keep s (hnot hon) _
  | call hon =>
    exact Spares.takeCriteria (hnot hon) fun c s => Spares.keepOutcome s hctx (hnot hon) _
  | mergeCriteria hon hother =>
    exact Spares.takeCriteria (hnot hon) fun c s =>
      Spares.withCriteria fun o => Spares.keep s (hnot hon) _
  | withExtension hon => exact Spares.takeCriteria (hnot hon) fun c s => Spares.keep s (hnot hon) _
  | state hon | response hon | hasOperation hon | modelOf hon | describe hon =>
    exact Spares.withCriteria fun c => Spares.refl l s
  | push hon => exact Spares.takeCriteria (hnot hon) fun c s => Spares.setContext s hctx _
  | @pop collection target h =>
    rw [performSimple]
    cases (s.context k.context).pop? .text collection with
    | some popped => exact (Spares.setContext s hctx _).trans (Spares.keep _ (hnot h) _)
    | none => exact Spares.refl l s
  | @popForeign collection =>
    rw [performSimple]
    cases (s.context k.context).pop? .bytes collection with
    | some popped => exact Spares.setContext s hctx _
    | none => exact Spares.refl l s
  | suppress => exact Spares.setContext s hctx _
  | top | topForeign | depth | isSuppressed | describeContext | withScope =>
    exact Spares.refl l s

end Session
end SearchCriteria
