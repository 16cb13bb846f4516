import SearchCriteria.Criteria.Basic

/-! The context of one chain of calls.
For every collection it keeps the criteria that are in scope, and whether the default scope
is left out. A guard remembers how deep its frame lies; dropping it takes that frame and all
above it away. -/
namespace SearchCriteria

structure ScopeContext where
  /-- Frames of each collection, the top one last; a collection once pushed stays listed. -/
  frameTable : NameTable (List Criteria) := []
  suppressed : NameTable Unit := []
  deriving Inhabited

/-- Remembers a pushed frame. -/
structure ScopeGuard where
  collection : String
  /-- The height of the stack with the frame on top. -/
  depth : Nat
  records : RecordKind
  deriving DecidableEq, Inhabited

namespace ScopeContext

def frames (ctx : ScopeContext) (collection : String) : List Criteria :=
  (ctx.frameTable.get? collection).getD []

def depth (ctx : ScopeContext) (collection : String) : Nat := (ctx.frames collection).length

def setFrames (ctx : ScopeContext) (collection : String) (frames : List Criteria) : ScopeContext :=
  { ctx with frameTable := ctx.frameTable.set collection frames }

/-- The frame on top, for those who ask for its kind of records. -/
def top? (ctx : ScopeContext) (records : RecordKind) (collection : String) : Option Criteria :=
  (ctx.frames collection).getLast?.filter fun c => c.model.records = records

def push (ctx : ScopeContext) (c : Criteria) : ScopeGuard × ScopeContext :=
  let frames := ctx.frames c.model.collection ++ [c]
  (⟨c.model.collection, frames.length, c.model.records⟩,
    ctx.setFrames c.model.collection frames)

/-- Takes the top frame off; a frame with other records stays. -/
def pop? (ctx : ScopeContext) (records : RecordKind) (collection : String) :
    Option (Criteria × ScopeContext) :=
  (ctx.top? records collection).map fun c =>
    (c, ctx.setFrames collection (ctx.frames collection).dropLast)

def pop (ctx : ScopeContext) (records : RecordKind) (collection : String) :
    Option Criteria × ScopeContext :=
  match ctx.pop? records collection with
  | some (c, next) => (some c, next)
  | none => (none, ctx)

def suppress (ctx : ScopeContext) (collection : String) : ScopeContext :=
  { ctx with suppressed := ctx.suppressed.set collection () }

def isSuppressed (ctx : ScopeContext) (collection : String) : Bool :=
  ctx.suppressed.contains collection

def describe (ctx : ScopeContext) : String :=
  let depths := ctx.frameTable.map fun e => Text.quoted e.1 ++ ": " ++ toString e.2.length
  "ScopeContext \x7b depths: \x7b" ++ ", ".intercalate depths ++ "\x7d, suppressed: \x7b" ++
    Text.quotedList ctx.suppressed.names ++ "\x7d \x7d"

theorem pop_of_top {ctx : ScopeContext} {records : RecordKind} {collection : String} {c : Criteria}
    (h : ctx.top? records collection = some c) :
    ctx.pop records collection =
      (some c, ctx.setFrames collection (ctx.frames collection).dropLast) := by
  rw [pop, pop?, h]
  rfl

theorem pop_of_no_top {ctx : ScopeContext} {records : RecordKind} {collection : String}
    (h : ctx.top? records collection = none) : ctx.pop records collection = (none, ctx) := by
  rw [pop, pop?, h]
  rfl

theorem frames_setFrames (ctx : ScopeContext) (collection other : String) (fs : List Criteria) :
    (ctx.setFrames collection fs).frames other =
      if other = collection then fs else ctx.frames other := by
  unfold frames setFrames
  rw [NameTable.get?_set]
  split <;> rfl

@[simp] theorem frames_push (ctx : ScopeContext) (c : Criteria) :
    (ctx.push c).2.frames c.model.collection = ctx.frames c.model.collection ++ [c] := by
  simp [push, frames_setFrames]

@[simp] theorem frames_suppress (ctx : ScopeContext) (collection other : String) :
    (ctx.suppress collection).frames other = ctx.frames other := rfl

@[simp] theorem isSuppressed_suppress (ctx : ScopeContext) (collection other : String) :
    (ctx.suppress collection).isSuppressed other =
      (other == collection || ctx.isSuppressed other) := by
  simp [suppress, isSuppressed]

end ScopeContext

namespace ScopeGuard

def criteria? (g : ScopeGuard) (ctx : ScopeContext) : Option Criteria :=
  ctx.top? g.records g.collection

/-- Cuts the stack below the guarded frame. -/
def drop (g : ScopeGuard) (ctx : ScopeContext) : ScopeContext :=
  match ctx.frameTable.get? g.collection with
  | some frames => ctx.setFrames g.collection (frames.take (g.depth - 1))
  | none => ctx

theorem frames_drop (g : ScopeGuard) (ctx : ScopeContext) (other : String) :
    (g.drop ctx).frames other =
      if other = g.collection then (ctx.frames other).take (g.depth - 1)
      else ctx.frames other := by
  cases hs : ctx.frameTable.get? g.collection with
  | none =>
    have : ctx.frames g.collection = [] := by simp [ScopeContext.frames, hs]
    by_cases h : other = g.collection <;> simp [drop, hs, h, this]
  | some frames =>
    have : ctx.frames g.collection = frames := by simp [ScopeContext.frames, hs]
    by_cases h : other = g.collection <;>
      simp [drop, hs, ScopeContext.frames_setFrames, h, this]

theorem frames_drop_push (ctx : ScopeContext) (c : Criteria) (other : String) :
    ((ctx.push c).1.drop (ctx.push c).2).frames other = ctx.frames other := by
  by_cases h : other = c.model.collection
  · subst h
    simp [ScopeContext.push, frames_drop, ScopeContext.frames_setFrames]
  · simp [ScopeContext.push, frames_drop, ScopeContext.frames_setFrames, h]

end ScopeGuard
end SearchCriteria
