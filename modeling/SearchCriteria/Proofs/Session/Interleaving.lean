import SearchCriteria.Proofs.Session.Ownership

/-! Chains of calls that take turns. A block is entered in one turn and left in another, and other
chains may have turns in between. A chain that has all its turns one after the other observes what
its commands answer when they are performed. -/
namespace SearchCriteria

/-- The answer to a command and the entries of the journal that belong to it. -/
abbrev Observation := Answer × List JournalEntry

namespace Answer

mutual

/-- What is observed one thing after the other: a block is reported when it is left, after all that
was answered in it. -/
def spread (entries : List JournalEntry) : Answer → List Observation
  | .block entry depth last inner exit after =>
    spreadAll inner ++ [(.block entry depth last [] exit after, entries)]
  | answer => [(answer, entries)]

def spreadAll : List Observation → List Observation
  | [] => []
  | o :: rest => spreadOne o ++ spreadAll rest

def spreadOne : Observation → List Observation
  | (answer, entries) => answer.spread entries

end

end Answer

mutual

/-- How many turns a command takes at most. -/
def Command.turns : Command → Nat
  | .withScope _ _ block _ => Command.turnsAll block + 2
  | _ => 1

def Command.turnsAll : List Command → Nat
  | [] => 0
  | command :: rest => command.turns + Command.turnsAll rest

end

/-- What a chain has yet to do. -/
inductive Pending where
  | command (command : Command)
  /-- Drops the frame of a block; what was seen when it was entered is kept for the report. -/
  | leave (context : String) (guard : ScopeGuard) (entry : Option String) (depth : Nat)
      (exit : BlockExit)

namespace Pending

/-- What stands for a block that is left belongs to the context of the chain. -/
inductive Within (k : Names) : Pending → Prop
  | command {command : Command} (h : command.Within k) : Within k (.command command)
  | leave {guard : ScopeGuard} {entry : Option String} {depth : Nat} {exit : BlockExit} :
      Within k (.leave k.context guard entry depth exit)

def turns : Pending → Nat
  | command c => c.turns
  | leave .. => 1

def turnsAll : List Pending → Nat
  | [] => 0
  | p :: rest => p.turns + turnsAll rest

theorem turnsAll_append (xs ys : List Pending) :
    turnsAll (xs ++ ys) = turnsAll xs + turnsAll ys := by
  induction xs with
  | nil => rw [List.nil_append, turnsAll, Nat.zero_add]
  | cons p rest ih => rw [List.cons_append, turnsAll, turnsAll, ih, Nat.add_assoc]

theorem turnsAll_commands (block : List Command) :
    turnsAll (block.map command) = Command.turnsAll block := by
  induction block with
  | nil => rfl
  | cons first rest ih =>
    rw [List.map_cons, turnsAll, ih, turns, Command.turnsAll]

theorem turns_pos (p : Pending) : 0 < p.turns := by
  cases p with
  | leave context guard entry depth exit => exact Nat.one_pos
  | command command => cases command <;> exact Nat.succ_pos _

theorem eq_nil_of_turnsAll {todo : List Pending} (h : turnsAll todo = 0) : todo = [] := by
  cases todo with
  | nil => rfl
  | cons p rest =>
    have hpos := p.turns_pos
    rw [turnsAll] at h
    omega

end Pending

structure Turn where
  seen : List Observation
  next : List Pending := []
  session : Session

/-- The chain sees the same in both turns, has the same to do, and the sessions agree. -/
structure Turn.Alike (k : Names) (x y : Turn) : Prop where
  seen : x.seen = y.seen
  next : x.next = y.next
  session : x.session.Agrees k y.session

namespace Session

def report (x : Answer × Session) : Turn where
  seen := x.1.spread x.2.drain.1
  session := x.2.drain.2

def enterWith (s : Session) (context : String) (c : Criteria) (block : List Command)
    (exit : BlockExit) : Turn :=
  let (guard, ctx) := (s.context context).push c
  { seen := []
    next := block.map Pending.command ++
      [.leave context guard ((guard.criteria? ctx).map Criteria.selector)
        (ctx.depth guard.collection) exit]
    session := s.setContext context ctx }

def enter (s : Session) (context on : String) (block : List Command) (exit : BlockExit) : Turn :=
  match s.criteria.get? on with
  | none => report (.noCriteria on, s)
  | some c => (s.lose on).enterWith context c block exit

def leave (s : Session) (context : String) (guard : ScopeGuard) (entry : Option String)
    (depth : Nat) (exit : BlockExit) : Turn :=
  let last := (guard.criteria? (s.context context)).map Criteria.selector
  let after := guard.drop (s.context context)
  report (.block entry depth last [] exit (after.depth guard.collection),
    s.setContext context after)

def turn (s : Session) : Pending → Turn
  | .command (.withScope context on block exit) => s.enter context on block exit
  | .command command => report (s.performSimple command)
  | .leave context guard entry depth exit => s.leave context guard entry depth exit

theorem turn_command (command : Command) :
    (∃ context on block exit, command = .withScope context on block exit) ∨
      ∀ s : Session, s.turn (.command command) = report (s.performSimple command) := by
  cases command with
  | withScope context on block exit => exact .inl ⟨context, on, block, exit, rfl⟩
  | _ => exact .inr fun s => rfl

/-- A turn ends with a report, or it enters a block. -/
theorem turn_cases (s : Session) (p : Pending) :
    (∃ x, s.turn p = report x) ∨
      ∃ context on block exit c, p = .command (.withScope context on block exit) ∧
        s.turn p = (s.lose on).enterWith context c block exit := by
  cases p with
  | leave context guard entry depth exit => exact .inl ⟨_, rfl⟩
  | command command =>
    rcases turn_command command with ⟨context, on, block, exit, rfl⟩ | hsimple
    · rw [turn, enter]
      cases s.criteria.get? on with
      | none => exact .inl ⟨_, rfl⟩
      | some c => exact .inr ⟨context, on, block, exit, c, rfl, rfl⟩
    · exact .inl ⟨_, hsimple s⟩

def complete (s : Session) : Pending → Turn
  | .command command => report (s.perform command)
  | .leave context guard entry depth exit => s.leave context guard entry depth exit

/-- What is observed when all that is to be done is done without interruption. -/
def finish : Session → List Pending → List Observation
  | _, [] => []
  | s, p :: rest => (s.complete p).seen ++ (s.complete p).session.finish rest

theorem performAll_cons (s : Session) (command : Command) (rest : List Command) :
    s.performAll (command :: rest) =
      (((s.perform command).1, (s.perform command).2.drain.1) ::
        ((s.perform command).2.drain.2.performAll rest).1,
        ((s.perform command).2.drain.2.performAll rest).2) := rfl

theorem finish_commands (s : Session) (block : List Command) (rest : List Pending) :
    s.finish (block.map Pending.command ++ rest) =
      Answer.spreadAll (s.performAll block).1 ++ (s.performAll block).2.finish rest := by
  induction block generalizing s with
  | nil => rfl
  | cons command block ih =>
    rw [List.map_cons, List.cons_append, finish, ih, performAll_cons, Answer.spreadAll,
      Answer.spreadOne, List.append_assoc]
    rfl

/-- A block is a frame pushed, its commands, and the frame dropped. -/
theorem finish_enter (s : Session) (context on : String) (block : List Command) (exit : BlockExit)
    (rest : List Pending) :
    s.finish (.command (.withScope context on block exit) :: rest) =
      (s.enter context on block exit).seen ++
        (s.enter context on block exit).session.finish
          ((s.enter context on block exit).next ++ rest) := by
  rw [finish, complete, perform, takeCriteria, enter]
  cases s.criteria.get? on with
  | none => rfl
  | some c =>
    simp only [enterWith, report, Answer.spread, List.append_assoc, List.nil_append,
      finish_commands]
    rfl

/-- Done without interruption is done turn by turn. -/
theorem finish_turn (s : Session) (p : Pending) (rest : List Pending) :
    s.finish (p :: rest) =
      (s.turn p).seen ++ (s.turn p).session.finish ((s.turn p).next ++ rest) := by
  cases p with
  | leave context guard entry depth exit => rfl
  | command command =>
    cases command with
    | withScope context on block exit => exact finish_enter s context on block exit rest
    | _ => rfl

theorem turnsAll_turn (s : Session) (p : Pending) :
    Pending.turnsAll (s.turn p).next + 1 ≤ p.turns := by
  rcases s.turn_cases p with ⟨x, hturn⟩ | ⟨context, on, block, exit, c, rfl, hturn⟩
  · rw [hturn]
    exact p.turns_pos
  · rw [hturn, enterWith, Pending.turnsAll_append, Pending.turnsAll_commands]
    exact Nat.le_refl _

theorem within_turn (s : Session) {k : Names} {p : Pending} (hp : p.Within k) :
    ∀ q ∈ (s.turn p).next, q.Within k := by
  rcases s.turn_cases p with ⟨x, hturn⟩ | ⟨context, on, block, exit, c, rfl, hturn⟩
  · rw [hturn]
    exact fun q hq => nomatch hq
  · rw [hturn]
    intro q hq
    cases hp with
    | command hc =>
      cases hc with
      | withScope hon hblock =>
        rcases List.mem_append.1 hq with hq | hq
        · obtain ⟨command, hmem, rfl⟩ := List.mem_map.1 hq
          exact .command (hblock command hmem)
        · obtain rfl := List.mem_singleton.1 hq
          exact .leave

theorem drain_of_quiet {s : Session} (h : s.world.journal = []) : s.drain.2 = s := by
  rw [drain, setWorld, ← h]

theorem Spares.agrees {k : Names} {s t : Session} (h : s.Spares k t) (hs : s.world.journal = [])
    (ht : t.world.journal = []) : s.Agrees k t := by
  rwa [Spares, drain_of_quiet hs, drain_of_quiet ht] at h

theorem journal_turn {s : Session} (h : s.world.journal = []) (p : Pending) :
    (s.turn p).session.world.journal = [] := by
  rcases s.turn_cases p with ⟨x, hturn⟩ | ⟨context, on, block, exit, c, rfl, hturn⟩
  · rw [hturn]
    rfl
  · rw [hturn]
    exact h

namespace Agrees

variable {k : Names} {s t : Session}

theorem report {x y : Answer × Session} (h : Alike k x y) :
    (Session.report x).Alike k (Session.report y) where
  seen := by
    simp only [Session.report, drain, h.1, h.2.world]
  next := rfl
  session := by
    simp only [Session.report, drain, h.2.world]
    exact h.2.setWorld _

theorem turn (h : s.Agrees k t) {p : Pending} (hp : p.Within k) :
    (s.turn p).Alike k (t.turn p) := by
  cases hp with
  | @leave guard entry depth exit =>
    simp only [Session.turn, leave, h.context]
    exact report ⟨rfl, h.setContext _ _⟩
  | @command command hc =>
    rcases turn_command command with ⟨context, on, block, exit, rfl⟩ | hsimple
    · cases hc with
      | withScope hon hblock =>
        simp only [Session.turn, enter, h.criteria on hon]
        cases t.criteria.get? on with
        | none => exact report ⟨rfl, h⟩
        | some c =>
          simp only [enterWith, (h.lose on).context]
          exact ⟨rfl, rfl, (h.lose on).setContext _ _⟩
    · rw [hsimple, hsimple]
      exact report (h.performSimple hc)

/-- Two sessions that agree let a chain observe the same. The induction is on the turns that are
left, since a block that is entered leaves more items than before. -/
theorem finish (h : s.Agrees k t) {todo : List Pending} (hw : ∀ p ∈ todo, p.Within k) :
    s.finish todo = t.finish todo := by
  induction hn : Pending.turnsAll todo using Nat.strongRecOn generalizing s t todo with
  | _ n ih =>
    cases todo with
    | nil => rfl
    | cons p rest =>
      have hturn := h.turn (hw p List.mem_cons_self)
      have hnext : ∀ q ∈ (t.turn p).next ++ rest, q.Within k := by
        intro q hq
        rcases List.mem_append.1 hq with hq | hq
        · exact within_turn t (hw p List.mem_cons_self) q hq
        · exact hw q (List.mem_cons_of_mem p hq)
      have hless : Pending.turnsAll ((t.turn p).next ++ rest) < n := by
        have hpaid := turnsAll_turn t p
        rw [Pending.turnsAll] at hn
        rw [Pending.turnsAll_append]
        omega
      rw [finish_turn, finish_turn, hturn.seen, hturn.next, ih _ hless hturn.session hnext rfl]

end Agrees

/-- A turn leaves alone what another chain owns. -/
theorem spares_turn (s : Session) {k l : Names} (hkl : k.Apart l) {p : Pending}
    (hp : p.Within k) : s.Spares l (s.turn p).session := by
  cases hp with
  | leave => exact Spares.setContext s hkl.context _
  | @command command hc =>
    rcases turn_command command with ⟨context, on, block, exit, rfl⟩ | hsimple
    · cases hc with
      | withScope hon hblock =>
        have hnot : on ∉ l.criteria := hkl.criteria on hon
        rw [turn, enter]
        cases s.criteria.get? on with
        | none => exact Spares.refl l s
        | some c => exact (Spares.lose s hnot).trans (Spares.setContext _ hkl.context _)
    · rw [hsimple]
      exact spares_performSimple s hkl hc

end Session
end SearchCriteria
