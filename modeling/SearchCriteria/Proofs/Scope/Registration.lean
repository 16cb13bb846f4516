import SearchCriteria.Proofs.Scope.Continuation
import SearchCriteria.Proofs.Scope.Defaults

/-! Registration. A model keeps scopes and finders in two tables, and a name that enters the one
leaves the other. So the two are one table of what was registered last, and calls go by it. -/
namespace SearchCriteria

inductive NamedOperation
  | scope (d : ScopeDefinition)
  | finder (f : Finder)

namespace NamedOperation

def kind : NamedOperation → OperationKind
  | scope _ => .scope
  | finder _ => .finder

def scope? : NamedOperation → Option ScopeDefinition
  | scope d => some d
  | finder _ => none

def finder? : NamedOperation → Option Finder
  | scope _ => none
  | finder f => some f

/-- Calls the operation on a model, with at most `depth` finders inside each other. A scope is
merged onto what the model begins with; a finder runs. -/
def run (rs : Registries) (m : Model) (args : List Value) (ctx : ScopeContext) :
    Nat → NamedOperation → Option Outcome
  | _, scope d =>
    let base := m.withDefaultScope rs ctx
    some ⟨.ok ((base.merge (d.builder.resolve rs.catalog args)).withExtension d.extension), ctx, []⟩
  | 0, finder _ => none
  | depth + 1, finder f => (f m args).run rs (Model.callTo rs depth) ctx

end NamedOperation

inductive Registration
  | operation (name : String) (e : NamedOperation)
  | default (part : ScopeBuilder)

def Registration.named? : Registration → Option (String × NamedOperation)
  | operation name e => some (name, e)
  | default _ => none

namespace Registry

def insert (r : Registry) (name : String) : NamedOperation → Bool × Registry
  | .scope d => r.insertScope name d
  | .finder f => r.insertFinder name f

def insertAll (r : Registry) (entries : List (String × NamedOperation)) : Registry :=
  entries.foldl (fun r e => (r.insert e.1 e.2).2) r

def register (r : Registry) (catalog : Catalog) : Registration → Bool × Registry
  | .operation name e => r.insert name e
  | .default part => r.composeDefault catalog part

theorem insert_fst (r : Registry) (name : String) (e : NamedOperation) :
    (r.insert name e).1 = r.isTaken name := by
  cases e <;> rfl

/-- The two tables are the one that the entries, set one after the other, make up. -/
structure Holds (r : Registry) (entries : List (String × NamedOperation)) : Prop where
  scope? : ∀ name, r.scope? name = (NameTable.last? name entries).bind NamedOperation.scope?
  finder? : ∀ name, r.finder? name = (NameTable.last? name entries).bind NamedOperation.finder?
  sorted : NameTable.Sorted r.scopes

variable {r : Registry} {entries : List (String × NamedOperation)}

namespace Holds

theorem empty : ({} : Registry).Holds [] := ⟨fun _ => rfl, fun _ => rfl, List.Pairwise.nil⟩

theorem insert (h : r.Holds entries) (name : String) (e : NamedOperation) :
    (r.insert name e).2.Holds (entries ++ [(name, e)]) := by
  cases e with
  | scope d =>
    refine ⟨fun other => ?_, fun other => ?_, h.sorted.set name d⟩
    · rw [Registry.insert, scope?_insertScope, NameTable.last?_concat, h.scope?]
      by_cases hother : other = name <;> simp [hother, NamedOperation.scope?]
    · rw [Registry.insert, finder?_insertScope, NameTable.last?_concat, h.finder?]
      by_cases hother : other = name <;> simp [hother, NamedOperation.finder?]
  | finder f =>
    refine ⟨fun other => ?_, fun other => ?_, h.sorted.remove name⟩
    · rw [Registry.insert, scope?_insertFinder, NameTable.last?_concat, h.scope?]
      by_cases hother : other = name <;> simp [hother, NamedOperation.scope?]
    · rw [Registry.insert, finder?_insertFinder, NameTable.last?_concat, h.finder?]
      by_cases hother : other = name <;> simp [hother, NamedOperation.finder?]

theorem insertAll (h : r.Holds entries) (more : List (String × NamedOperation)) :
    (r.insertAll more).Holds (entries ++ more) := by
  induction more generalizing r entries with
  | nil => simpa [Registry.insertAll] using h
  | cons e more ih =>
    rw [List.append_cons entries]
    exact ih (h.insert e.1 e.2)

theorem scope?_or_finder? (h : r.Holds entries) (name : String) :
    r.scope? name = none ∨ r.finder? name = none := by
  rw [h.scope?, h.finder?]
  rcases NameTable.last? name entries with _ | (d | f)
  · exact .inl rfl
  · exact .inr rfl
  · exact .inl rfl

theorem respondsTo_iff (h : r.Holds entries) (name : String) :
    r.respondsTo name = true ↔ name ∈ NameTable.names entries := by
  have hnone := NameTable.last?_eq_none_iff name entries
  have hdef : r.respondsTo name = ((r.scope? name).isSome || (r.finder? name).isSome) := rfl
  rw [hdef, h.scope?, h.finder?]
  rcases hlast : NameTable.last? name entries with _ | (d | f)
  · simpa using hnone.1 hlast
  · simpa [NamedOperation.scope?, hlast] using hnone
  · simpa [NamedOperation.finder?, hlast] using hnone

theorem isTaken_iff (h : r.Holds entries) (name : String) :
    r.isTaken name = true ↔ name ∈ builtinOperations ∨ name ∈ NameTable.names entries := by
  rw [isTaken, Bool.or_eq_true, h.respondsTo_iff, List.contains_iff_mem]

theorem mem_scopeNames_iff (h : r.Holds entries) (name : String) :
    name ∈ r.scopeNames ↔ ∃ d, NameTable.last? name entries = some (.scope d) := by
  have hdef : (NameTable.get? name r.scopes) = r.scope? name := rfl
  rw [scopeNames, NameTable.mem_names_iff, hdef, h.scope?]
  rcases NameTable.last? name entries with _ | (d | f) <;>
    simp [NamedOperation.scope?]

end Holds

/-- Registries that differ in their default scopes only. -/
structure SameTables (r r' : Registry) : Prop where
  scopes : r.scopes = r'.scopes
  finders : r.finders = r'.finders

namespace SameTables

variable {r' : Registry}

theorem holds (h : r.SameTables r') (hr' : r'.Holds entries) : r.Holds entries where
  scope? name := by rw [Registry.scope?, h.scopes]; exact hr'.scope? name
  finder? name := by rw [Registry.finder?, h.finders]; exact hr'.finder? name
  sorted := by rw [h.scopes]; exact hr'.sorted

theorem insert (h : r.SameTables r') (name : String) (e : NamedOperation) :
    (r.insert name e).2.SameTables (r'.insert name e).2 := by
  cases e with
  | scope d =>
    exact ⟨congrArg (NameTable.set name d) h.scopes, congrArg (NameTable.remove name) h.finders⟩
  | finder f =>
    exact ⟨congrArg (NameTable.remove name) h.scopes, congrArg (NameTable.set name f) h.finders⟩

theorem register (h : r.SameTables r') (catalog : Catalog) (reg : Registration) :
    (r.register catalog reg).2.SameTables (r'.insertAll reg.named?.toList) := by
  cases reg with
  | operation name e => exact h.insert name e
  | default part =>
    rw [Registry.register]
    cases hchanged : (r.composeDefault catalog part).1 with
    | false =>
      rw [composeDefault_ignored hchanged]
      exact h
    | true =>
      rw [composeDefault_accepted hchanged]
      exact ⟨h.scopes, h.finders⟩

end SameTables

theorem insertAll_append (r : Registry) (entries more : List (String × NamedOperation)) :
    r.insertAll (entries ++ more) = (r.insertAll entries).insertAll more := by
  rw [insertAll, List.foldl_append, insertAll, insertAll]

end Registry

namespace World

def register (w : World) (m : Model) : Registration → World
  | .operation name (.scope d) => w.defineScope m name d
  | .operation name (.finder f) => w.defineFinder m name f
  | .default part => w.defaultScope m part

def registerAll (w : World) (steps : List (Model × Registration)) : World :=
  steps.foldl (fun w step => w.register step.1 step.2) w

def entriesOf (m : Model) (steps : List (Model × Registration)) :
    List (String × NamedOperation) :=
  steps.filterMap fun step => if step.1.id = m.id then step.2.named? else none

variable {w : World} {m : Model}

theorem registerAll_cons (step : Model × Registration) (steps : List (Model × Registration)) :
    w.registerAll (step :: steps) = (w.register step.1 step.2).registerAll steps := rfl

theorem entriesOf_cons (step : Model × Registration) (steps : List (Model × Registration)) :
    entriesOf m (step :: steps) =
      (if step.1.id = m.id then step.2.named? else none).toList ++ entriesOf m steps := by
  rw [entriesOf, List.filterMap_cons, ← entriesOf]
  split <;> simp_all

theorem registries_update_of_ne {other : Model} {n : Nat} (h : other.id ≠ n)
    (f : ModelState → ModelState) : (w.update other f).registries n = w.registries n := by
  simp [registries, update, h]

theorem register_operation (w : World) (m : Model) (name : String) (e : NamedOperation) :
    w.register m (.operation name e) =
      (w.update m fun s => { s with registry := ((w.registries m.id).insert name e).2 }).reportTaken
        e.kind m name ((w.registries m.id).isTaken name) := by
  cases e with
  | scope d => rw [register, defineScope, registry_state]; rfl
  | finder f => rw [register, defineFinder, registry_state]; rfl

theorem register_default (w : World) (m : Model) (part : ScopeBuilder) :
    w.register m (.default part) =
      if ((w.registries m.id).composeDefault w.catalog part).1 then
        w.update m fun s =>
          { s with registry := ((w.registries m.id).composeDefault w.catalog part).2 }
      else w.log (.defaultUnchanged m.collection) := by
  rw [register, defaultScope, registry_state]

theorem registries_reportTaken (kind : OperationKind) (name : String) (taken : Bool) :
    (w.reportTaken kind m name taken).registries = w.registries := by
  cases taken <;> rfl

theorem length_register (other : Model) (reg : Registration) :
    (w.register other reg).models.length = w.models.length := by
  cases reg with
  | operation name e =>
    rw [register_operation]
    cases (w.registries other.id).isTaken name <;> simp [reportTaken, update, log]
  | default part =>
    rw [register_default]
    split <;> simp [update, log]

theorem length_registerAll (steps : List (Model × Registration)) :
    (w.registerAll steps).models.length = w.models.length := by
  induction steps generalizing w with
  | nil => rfl
  | cons step steps ih => rw [registerAll_cons, ih, length_register]

theorem registries_register (hm : m.id < w.models.length) (other : Model) (reg : Registration) :
    (w.register other reg).registries m.id =
      if other.id = m.id then ((w.registries m.id).register w.catalog reg).2
      else w.registries m.id := by
  by_cases h : other.id = m.id
  · rw [if_pos h, ← h]
    rw [← h] at hm
    cases reg with
    | operation name e =>
      rw [register_operation, registries_reportTaken, registries_update hm]
      rfl
    | default part => exact (defaultScope_spec hm part).1
  · rw [if_neg h]
    cases reg with
    | operation name e =>
      rw [register_operation, registries_reportTaken, registries_update_of_ne h]
    | default part =>
      rw [register_default]
      split
      · exact registries_update_of_ne h _
      · rfl

theorem journal_register_operation (w : World) (m : Model) (name : String) (e : NamedOperation) :
    (w.register m (.operation name e)).journal =
      w.journal ++ if (w.registries m.id).isTaken name
        then [.overwritten e.kind m.collection name] else [] := by
  rw [register_operation]
  cases (w.registries m.id).isTaken name <;> simp [reportTaken, update, log]

theorem journal_defaultScope (w : World) (m : Model) (part : ScopeBuilder) :
    (w.defaultScope m part).journal =
      w.journal ++ if ((w.registries m.id).composeDefault w.catalog part).1 then []
        else [.defaultUnchanged m.collection] := by
  have hdef : w.defaultScope m part = w.register m (.default part) := rfl
  rw [hdef, register_default]
  split <;> simp [update, log]

/-- The tables of a model take up what is registered with it, whatever else is registered. -/
theorem sameTables_registerAll (hm : m.id < w.models.length) {r : Registry}
    (h : (w.registries m.id).SameTables r) (steps : List (Model × Registration)) :
    ((w.registerAll steps).registries m.id).SameTables (r.insertAll (entriesOf m steps)) := by
  induction steps generalizing w r with
  | nil => exact h
  | cons step steps ih =>
    have hlength : m.id < (w.register step.1 step.2).models.length := by rwa [length_register]
    rw [registerAll_cons, entriesOf_cons, Registry.insertAll_append]
    refine ih hlength ?_
    rw [registries_register hm]
    by_cases hid : step.1.id = m.id
    · rw [if_pos hid, if_pos hid]
      exact h.register w.catalog step.2
    · rw [if_neg hid, if_neg hid]
      exact h

end World

namespace Model

variable {rs : Registries} {m : Model} {entries : List (String × NamedOperation)}

theorem callTo_eq (h : (rs m.id).Holds entries) (depth : Nat) (name : String) (args : List Value)
    (ctx : ScopeContext) :
    m.callTo rs depth name args ctx =
      match NameTable.last? name entries with
      | some e => e.run rs m args ctx depth
      | none => some ⟨.error (.unknownOperation name), ctx, []⟩ := by
  have hscope := h.scope? name
  have hfinder := h.finder? name
  rcases hlast : NameTable.last? name entries with _ | (d | f) <;> rw [hlast] at hscope hfinder
  · exact callTo_unknown hscope hfinder depth args ctx
  · rw [callTo_scope hscope, applyScope_eq hscope]
    cases depth <;> rfl
  · cases depth with
    | zero =>
      rw [callTo, hscope, hfinder]
      rfl
    | succ depth => exact callTo_finder hscope hfinder depth args ctx

end Model

namespace Criteria

variable {rs : Registries} {c : Criteria} {entries : List (String × NamedOperation)}

theorem callTo_eq (h : (rs c.model.id).Holds entries) (depth : Nat) (name : String)
    (args : List Value) (ctx : ScopeContext) :
    c.callTo rs depth name args ctx =
      match c.extensions.get? name, NameTable.last? name entries with
      | some op, _ =>
        some ⟨(op.run rs.catalog args c.view).result.map c.complete, ctx,
          (op.run rs.catalog args c.view).notes⟩
      | none, some e =>
        (e.run rs c.model args (ctx.push c).2 depth).map fun o =>
          { o with context := (ctx.push c).1.drop o.context }
      | none, none => some ⟨.error (.unknownOperation name), ctx, []⟩ := by
  have hname := h.respondsTo_iff name
  have hnone := NameTable.last?_eq_none_iff name entries
  rw [callTo]
  cases hext : c.extensions.get? name with
  | some op => exact callWith_carried hext args ctx
  | none =>
    cases hlast : NameTable.last? name entries with
    | none =>
      have hfree : (rs c.model.id).respondsTo name = false := by
        rw [Bool.eq_false_iff, ne_eq, hname]
        exact hnone.1 hlast
      exact callWith_unknown hext hfree args ctx
    | some e =>
      have hmem : (rs c.model.id).respondsTo name = true := by
        rw [hname]
        by_contra hmem
        rw [hnone.2 hmem] at hlast
        cases hlast
      rw [callWith_model hext hmem, Model.callTo_eq h, hlast]

/-- A carried operation that only takes steps takes exactly these. -/
theorem callTo_steps {op : ExtensionOp} {args : List Value} {ops : List Operation} {name : String}
    (hext : c.extensions.get? name = some op)
    (hops : (op.run rs.catalog args c.view).result = .ok (c.view.draft.applyAll ops))
    (depth : Nat) (ctx : ScopeContext) :
    c.callTo rs depth name args ctx =
      some ⟨.ok (c.applyAll ops), ctx, (op.run rs.catalog args c.view).notes⟩ := by
  rw [callTo, callWith_carried hext, hops, Except.map, complete_applyAll, complete_draft]

theorem hasOperation_eq_false_iff (h : (rs c.model.id).Holds entries) (name : String) :
    c.hasOperation rs name = false ↔
      c.extensions.get? name = none ∧ NameTable.last? name entries = none := by
  rw [hasOperation, Bool.or_eq_false_iff, NameTable.last?_eq_none_iff, ← h.respondsTo_iff,
    Bool.not_eq_true, NameTable.contains, Option.isSome_eq_false_iff, Option.isNone_iff_eq_none]

end Criteria

namespace World

variable {w : World} {m : Model}

/-- Scopes and finders are one table: what was registered last stands under its name, and is called
unless the criteria carries an operation of that name. -/
theorem last_registration_counts (hm : m.id < w.models.length)
    (hscopes : (w.registries m.id).scopes = []) (hfinders : (w.registries m.id).finders = [])
    (steps : List (Model × Registration)) :
    let after := w.registerAll steps
    let rs := after.registries
    let r := rs m.id
    let entries := entriesOf m steps
    (r.scopes = (({} : Registry).insertAll entries).scopes ∧
      r.finders = (({} : Registry).insertAll entries).finders) ∧
    (∀ name, (r.scope? name = none ∨ r.finder? name = none) ∧
      r.scope? name = (NameTable.last? name entries).bind NamedOperation.scope? ∧
      r.finder? name = (NameTable.last? name entries).bind NamedOperation.finder?) ∧
    (∀ name e,
      ((r.insert name e).1 = true ↔
        name ∈ builtinOperations ∨ name ∈ NameTable.names entries) ∧
      (after.register m (.operation name e)).registries m.id = (r.insert name e).2 ∧
      (after.register m (.operation name e)).journal = after.journal ++
        if (r.insert name e).1 then [.overwritten e.kind m.collection name] else []) ∧
    (r.scopeNames.Pairwise (· < ·) ∧
      ∀ name, name ∈ r.scopeNames ↔ ∃ d, NameTable.last? name entries = some (.scope d)) ∧
    (∀ name args ctx,
      (∀ depth, m.callTo rs depth name args ctx =
        match NameTable.last? name entries with
        | some e => e.run rs m args ctx depth
        | none => some ⟨.error (.unknownOperation name), ctx, []⟩) ∧
      (m.callTo rs 0 name args ctx = some ⟨.error (.unknownOperation name), ctx, []⟩ ↔
        name ∉ NameTable.names entries)) ∧
    -- What a criteria carries is asked before the table.
    ∀ c : Criteria, c.model = m → ∀ name,
      let view : CriteriaView := ⟨m, c.query, c.cache, c.extensions.names⟩
      (∀ depth args ctx, c.callTo rs depth name args ctx =
        match c.extensions.get? name, NameTable.last? name entries with
        | some op, _ =>
          let reply := op.run rs.catalog args view
          match reply.result with
          | .error e => some ⟨.error e, ctx, reply.notes⟩
          | .ok d =>
            let kept : Extension := c.extensions.filter fun e => d.kept.contains e.1
            some ⟨.ok ⟨d.model, d.query, kept.extend d.added, d.cache⟩, ctx, reply.notes⟩
        | none, some e =>
          (e.run rs m args (ctx.push c).2 depth).map fun o =>
            { o with context := (ctx.push c).1.drop o.context }
        | none, none => some ⟨.error (.unknownOperation name), ctx, []⟩) ∧
      (c.hasOperation rs name = false ↔
        c.extensions.get? name = none ∧ name ∉ NameTable.names entries) ∧
      ∀ op args ops, c.extensions.get? name = some op →
        (op.run rs.catalog args view).result = .ok (view.draft.applyAll ops) →
        ∀ depth ctx, c.callTo rs depth name args ctx =
          some ⟨.ok ⟨m, c.query.applyAll ops, c.extensions, if ops.isEmpty then c.cache else {}⟩,
            ctx, (op.run rs.catalog args view).notes⟩ := by
  intro after rs r entries
  have htables : r.SameTables (({} : Registry).insertAll entries) :=
    sameTables_registerAll hm ⟨hscopes, hfinders⟩ steps
  have hr : r.Holds entries := htables.holds (Registry.Holds.empty.insertAll entries)
  have hlength : m.id < after.models.length := by rwa [length_registerAll]
  refine ⟨⟨htables.scopes, htables.finders⟩,
    fun name => ⟨hr.scope?_or_finder? name, hr.scope? name, hr.finder? name⟩,
    fun name e => ⟨?_, ?_, ?_⟩, ⟨hr.sorted, hr.mem_scopeNames_iff⟩,
    fun name args ctx => ⟨fun depth => Model.callTo_eq hr depth name args ctx, ?_⟩,
    fun c hc name => ?_⟩
  · rw [Registry.insert_fst, hr.isTaken_iff]
  · rw [registries_register hlength, if_pos rfl]
    rfl
  · rw [journal_register_operation, Registry.insert_fst]
  · rw [Model.callTo_eq hr, ← NameTable.last?_eq_none_iff]
    rcases NameTable.last? name entries with _ | (d | f) <;> simp [NamedOperation.run]
  · subst hc
    refine ⟨fun depth args ctx => ?_, ?_, fun op args ops hext hops depth ctx => ?_⟩
    · rw [Criteria.callTo_eq hr]
      cases c.extensions.get? name with
      | none => cases NameTable.last? name entries <;> rfl
      | some op =>
        simp only [Criteria.view]
        cases (op.run rs.catalog args _).result <;> rfl
    · rw [Criteria.hasOperation_eq_false_iff hr, NameTable.last?_eq_none_iff]
    · rw [Criteria.callTo_steps hext hops, Criteria.applyAll_eq]
      rfl

/-- A scope that takes the place of a finder, a finder under a name that is built in, and a criteria
that carries two operations. -/
theorem last_registration_counts_replaced :
    let people : Model := { id := 0, collection := "people" }
    let pets : Model := { id := 1, collection := "pets" }
    let w : World := { models := [{ model := people }, { model := pets }] }
    let all : NamedOperation := .finder fun m _ => .start m .inScope fun c => .finish (.ok c)
    let recent : NamedOperation := .scope { builder := .fixed { selector := "year:2024" } }
    let steps : List (Model × Registration) :=
      [(people, .operation "recent" all), (pets, .operation "old" recent),
       (people, .default (.fixed { selector := "tenant:7" })),
       (people, .operation "recent" recent), (people, .operation "limit" all)]
    let rs := (w.registerAll steps).registries
    let oldest : ExtensionOp :=
      { run := fun _ _ c => { result := .ok (c.draft.applyAll [.sort (.raw "age desc")]) } }
    let broken : ExtensionOp :=
      { run := fun _ args _ => { notes := ["broken"],
                                 result := .error (.queryFailed (toString args.length)) } }
    let c : Criteria :=
      { model := people, query := { selector := "(a:1)" },
        extensions := [("broken", broken), ("recent", oldest)],
        cache := { documents := some ["Joe"] } }
    people.id < w.models.length ∧ (w.registries people.id).scopes = [] ∧
    (w.registries people.id).finders = [] ∧
    (rs people.id).scope? "limit" = none ∧
    ((rs people.id).insert "limit" recent).1 = true ∧
    people.callTo rs 0 "old" [] {} = some ⟨.error (.unknownOperation "old"), {}, []⟩ ∧
    (people.callTo rs 0 "recent" [] {}).map (fun o => o.result.toOption.map Criteria.selector) =
      some (some "(tenant:7) AND (year:2024)") ∧
    (people.callTo rs 1 "limit" [] {}).map (fun o => o.result.toOption.map Criteria.selector) =
      some (some "(tenant:7)") ∧
    c.callTo rs 0 "recent" [] {} =
      some ⟨.ok ⟨people, { selector := "(a:1)", options := { sort := some "age desc" } },
        c.extensions, {}⟩, {}, []⟩ ∧
    c.callTo rs 0 "broken" [.int 1] {} = some ⟨.error (.queryFailed "1"), {}, ["broken"]⟩ ∧
    (c.callTo rs 1 "limit" [] {}).map (fun o => o.result.toOption.map Criteria.selector) =
      some (some "(a:1)") ∧
    c.callTo rs 1 "old" [] {} = some ⟨.error (.unknownOperation "old"), {}, []⟩ := by
  intro people pets w all recent steps rs oldest broken c
  have hm : people.id < w.models.length := by decide
  obtain ⟨-, htable, htaken, -, hcall, hcriteria⟩ := last_registration_counts hm rfl rfl steps
  refine ⟨hm, rfl, rfl, (htable "limit").2.1, (htaken "limit" recent).1.2 (.inl ?_),
    (hcall "old" [] {}).2.2 ?_, ?_, ?_, ?_, ?_, ?_, ?_⟩
  · decide
  · decide
  · rw [(hcall "recent" [] {}).1]
    decide +kernel
  · rw [(hcall "limit" [] {}).1]
    decide +kernel
  · exact (hcriteria c rfl "recent").2.2 oldest [] [.sort (.raw "age desc")] rfl rfl 0 {}
  · rw [(hcriteria c rfl "broken").1]
    rfl
  · rw [(hcriteria c rfl "limit").1]
    decide +kernel
  · rw [(hcriteria c rfl "old").1]
    rfl

end World
end SearchCriteria
