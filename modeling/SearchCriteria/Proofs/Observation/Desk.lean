import Mathlib.Logic.Function.Basic
import SearchCriteria.Proofs.Observation.Reports

/-! Runs over any number of criteria that share one outside. Each read is reported: what its caller
was given, and whether it rejected an answer. The failures that callers are told of are those that
the outside is told of, and there are as many as there were errors answered and answers rejected. -/
namespace SearchCriteria

/-- What the caller of a read was given, and whether the read rejected an answer. -/
structure Report where
  collection : String
  selector : String
  rejected : Bool
  result : Except CriteriaError Finding

namespace Report

def fault? (r : Report) : Option Fault := Fault.of? r.collection r.selector r.result

def failedOn (collection : String) (r : Report) : Bool :=
  r.collection = collection && r.fault?.isSome

def rejectedOn (collection : String) (r : Report) : Bool :=
  r.collection = collection && r.rejected

end Report

def Criteria.report {σ : Type} (s : Service σ) (c : Criteria) (st : σ) (kind : ReadKind) :
    Report :=
  ⟨c.model.collection, c.selector, c.rejects s st kind, (c.read s st kind).result⟩

/-- What is done with criteria that stand at numbered places. -/
inductive Use
  /-- A criteria of any model, whatever it found before, comes to stand at `i`. -/
  | put (i : Nat) (c : Criteria)
  | apply (i : Nat) (op : Operation)
  | fork (i j : Nat)
  | read (i : Nat) (kind : ReadKind)
  | take (i : Nat)

structure Desk (σ : Type) where
  criteria : Nat → Option Criteria
  state : σ
  reports : List Report := []

namespace Desk

variable {σ τ : Type}

def step (s : Service σ) (d : Desk σ) : Use → Desk σ
  | .put i c => { d with criteria := Function.update d.criteria i (some c) }
  | .apply i op =>
    { d with criteria := Function.update d.criteria i ((d.criteria i).map fun c => c.apply op) }
  | .fork i j =>
    { d with criteria := Function.update d.criteria j ((d.criteria i).map Criteria.fork) }
  | .read i kind =>
    match d.criteria i with
    | none => d
    | some c =>
      { criteria := Function.update d.criteria i (some (c.read s d.state kind).criteria)
        state := (c.read s d.state kind).state
        reports := d.reports ++ [c.report s d.state kind] }
  | .take i =>
    match d.criteria i with
    | none => d
    | some c =>
      { criteria := Function.update d.criteria i none
        state := (c.intoDocuments s d.state).2
        reports := d.reports ++ [⟨c.model.collection, c.selector, c.rejects s d.state .documents,
          (c.intoDocuments s d.state).1.map .records⟩] }

def run (s : Service σ) (d : Desk σ) (uses : List Use) : Desk σ := uses.foldl (step s) d

@[simp] theorem run_nil (s : Service σ) (d : Desk σ) : d.run s [] = d := rfl
@[simp] theorem run_cons (s : Service σ) (d : Desk σ) (u : Use) (uses : List Use) :
    d.run s (u :: uses) = (d.step s u).run s uses := rfl

theorem step_read {d : Desk σ} {i : Nat} {c : Criteria} (h : d.criteria i = some c)
    (s : Service σ) (kind : ReadKind) :
    d.step s (.read i kind) =
      { criteria := Function.update d.criteria i (some (c.read s d.state kind).criteria)
        state := (c.read s d.state kind).state
        reports := d.reports ++ [c.report s d.state kind] } := by
  simp [step, h]

/-- To use a criteria up is to read its documents, after which it is gone. -/
theorem step_take {d : Desk σ} {i : Nat} {c : Criteria} (h : d.criteria i = some c)
    (s : Service σ) :
    d.step s (.take i) =
      { criteria := Function.update d.criteria i none
        state := (c.read s d.state .documents).state
        reports := d.reports ++ [c.report s d.state .documents] } := by
  simp only [step, h]
  rfl

theorem step_vacant {d : Desk σ} {i : Nat} (h : d.criteria i = none) (s : Service σ) :
    (∀ kind, d.step s (.read i kind) = d) ∧ d.step s (.take i) = d := by
  simp [step, h]

/-- A step leaves outside and reports alone, or is one read and its report. -/
theorem step_cases (s : Service σ) (d : Desk σ) (u : Use) :
    ((d.step s u).state = d.state ∧ (d.step s u).reports = d.reports) ∨
    ∃ c kind, (d.step s u).state = (Criteria.read s c d.state kind).state ∧
      (d.step s u).reports = d.reports ++ [c.report s d.state kind] := by
  cases u with
  | put i c => exact .inl ⟨rfl, rfl⟩
  | apply i op => exact .inl ⟨rfl, rfl⟩
  | fork i j => exact .inl ⟨rfl, rfl⟩
  | read i kind =>
    cases h : d.criteria i with
    | none =>
      rw [(step_vacant h s).1]
      exact .inl ⟨rfl, rfl⟩
    | some c =>
      rw [step_read h]
      exact .inr ⟨c, kind, rfl, rfl⟩
  | take i =>
    cases h : d.criteria i with
    | none =>
      rw [(step_vacant h s).2]
      exact .inl ⟨rfl, rfl⟩
    | some c =>
      rw [step_take h]
      exact .inr ⟨c, .documents, rfl, rfl⟩

theorem run_keep {s : Service σ} {P : σ → List Report → Prop}
    (hread : ∀ (c : Criteria) kind st reports, P st reports →
      P (c.read s st kind).state (reports ++ [c.report s st kind]))
    {d : Desk σ} (h : P d.state d.reports) (uses : List Use) :
    P (d.run s uses).state (d.run s uses).reports := by
  induction uses generalizing d with
  | nil => exact h
  | cons u uses ih =>
    rw [run_cons]
    refine ih ?_
    rcases d.step_cases s u with ⟨hstate, hreports⟩ | ⟨c, kind, hstate, hreports⟩
    · rwa [hstate, hreports]
    · rw [hstate, hreports]
      exact hread c kind _ _ h

def mapState (f : σ → τ) (d : Desk σ) : Desk τ := ⟨d.criteria, f d.state, d.reports⟩

end Desk

namespace Service.Mirrors

variable {σ τ : Type} {s : Service σ} {t : Service τ} {f : σ → τ}

theorem rejects (h : s.Mirrors t f) (c : Criteria) (st : σ) (kind : ReadKind) :
    c.rejects t (f st) kind = c.rejects s st kind := by
  have hanswer : c.rejectsAnswer t (f st) = c.rejectsAnswer s st := by
    rw [Criteria.rejectsAnswer, ← h.ensureResponse]
    rfl
  cases kind <;> simp only [Criteria.rejects, hanswer]

theorem report (h : s.Mirrors t f) (c : Criteria) (st : σ) (kind : ReadKind) :
    c.report t (f st) kind = c.report s st kind := by
  rw [Criteria.report, h.rejects, ← h.read]
  rfl

theorem step (h : s.Mirrors t f) (d : Desk σ) (u : Use) :
    (d.step s u).mapState f = (d.mapState f).step t u := by
  cases u with
  | put i c => rfl
  | apply i op => rfl
  | fork i j => rfl
  | read i kind =>
    cases hi : d.criteria i with
    | none =>
      have hmapped : (d.mapState f).criteria i = none := hi
      rw [(Desk.step_vacant hi s).1, (Desk.step_vacant hmapped t).1]
    | some c =>
      have hmapped : (d.mapState f).criteria i = some c := hi
      have hstate : (d.mapState f).state = f d.state := rfl
      rw [Desk.step_read hi, Desk.step_read hmapped, hstate, h.report, ← h.read]
      rfl
  | take i =>
    cases hi : d.criteria i with
    | none =>
      have hmapped : (d.mapState f).criteria i = none := hi
      rw [(Desk.step_vacant hi s).2, (Desk.step_vacant hmapped t).2]
    | some c =>
      have hmapped : (d.mapState f).criteria i = some c := hi
      have hstate : (d.mapState f).state = f d.state := rfl
      rw [Desk.step_take hi, Desk.step_take hmapped, hstate, h.report, ← h.read]
      rfl

theorem run (h : s.Mirrors t f) (d : Desk σ) (uses : List Use) :
    (d.run s uses).mapState f = (d.mapState f).run t uses := by
  induction uses generalizing d with
  | nil => rfl
  | cons u uses ih => rw [Desk.run_cons, ih, h.step, Desk.run_cons]

end Service.Mirrors

/-- The reports tell the failures that the outside was told of, and in each collection there are as
many as errors were answered and answers rejected. -/
structure Tallied (h : History) (reports : List Report) : Prop where
  faults : h.faults = reports.filterMap Report.fault?
  causes : ∀ k,
    reports.countP (Report.failedOn k) = h.lapses k + reports.countP (Report.rejectedOn k)

namespace Tallied

variable {σ : Type} {reports : List Report}

theorem nil : Tallied [] [] := ⟨rfl, fun _ => rfl⟩

theorem read (s : Service σ) {st : History × σ} (h : Tallied st.1 reports) (c : Criteria)
    (kind : ReadKind) :
    Tallied (c.read s.recorded st kind).state.1 (reports ++ [c.report s.recorded st kind]) := by
  have hread := c.accounted_read s st kind
  refine ⟨?_, fun k => ?_⟩
  · have hlast : [c.report s.recorded st kind].filterMap Report.fault? =
        (c.report s.recorded st kind).fault?.toList := by
      cases hfault : (c.report s.recorded st kind).fault? <;> simp [hfault]
    rw [hread.faults, h.faults, List.filterMap_append, hlast]
    rfl
  · have hcauses := hread.causes k
    have hbefore := h.causes k
    have hcount : ∀ p : Report → Bool, [c.report s.recorded st kind].countP p =
        (p (c.report s.recorded st kind)).toNat := by
      intro p
      cases hp : p (c.report s.recorded st kind) <;> simp [hp]
    have hthis : st.1.lapses k + (Report.failedOn k (c.report s.recorded st kind)).toNat =
        (c.read s.recorded st kind).state.1.lapses k +
          (Report.rejectedOn k (c.report s.recorded st kind)).toNat := hcauses
    rw [List.countP_append, List.countP_append, hcount, hcount]
    omega

theorem run (s : Service σ) {d : Desk (History × σ)} (h : Tallied d.state.1 d.reports)
    (uses : List Use) : Tallied (d.run s.recorded uses).state.1 (d.run s.recorded uses).reports :=
  Desk.run_keep (P := fun (st : History × σ) reports => Tallied st.1 reports)
    (fun c kind _ _ hst => hst.read s c kind) h uses

end Tallied
end SearchCriteria
