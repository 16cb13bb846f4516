import SearchCriteria.Query.Value

/-! Predicates: fields with one value each, in the order in which they were first given.
Giving a field again replaces its value where it stands. -/
namespace SearchCriteria

structure Predicate where
  fields : List (String × Value) := []
  deriving Inhabited

namespace Predicate

/-- Replaces the value of `field` where it stands, or appends the field. -/
def insertField (field : String) (value : Value) : List (String × Value) → List (String × Value)
  | [] => [(field, value)]
  | (name, old) :: rest =>
    if name = field then (name, value) :: rest else (name, old) :: insertField field value rest

def insert (p : Predicate) (field : String) (value : Value) : Predicate :=
  ⟨insertField field value p.fields⟩

def ofList (pairs : List (String × Value)) : Predicate :=
  pairs.foldl (fun p e => p.insert e.1 e.2) ⟨[]⟩

def get? (p : Predicate) (field : String) : Option Value :=
  (p.fields.find? fun e => e.1 == field).map Prod.snd

def size (p : Predicate) : Nat := p.fields.length
def isEmpty (p : Predicate) : Bool := p.fields.isEmpty
def names (p : Predicate) : List String := p.fields.map Prod.fst

def mapValues (f : Value → Value) (p : Predicate) : Predicate :=
  ⟨p.fields.map fun e => (e.1, f e.2)⟩

def equals (p q : Predicate) : Bool :=
  p.fields.length == q.fields.length &&
    (p.fields.zip q.fields).all fun e => e.1.1 == e.2.1 && e.1.2.equals e.2.2

theorem names_insert_of_mem {p : Predicate} {field : String} (h : field ∈ p.names)
    (value : Value) : (p.insert field value).names = p.names := by
  obtain ⟨fields⟩ := p
  simp only [insert, names] at h ⊢
  induction fields with
  | nil => simp at h
  | cons e rest ih =>
    obtain ⟨name, old⟩ := e
    by_cases hname : name = field
    · simp [insertField, hname]
    · have hrest : field ∈ rest.map Prod.fst := by simpa [Ne.symm hname] using h
      simp [insertField, hname, ih hrest]

theorem names_insert_of_notMem {p : Predicate} {field : String} (h : field ∉ p.names)
    (value : Value) : (p.insert field value).names = p.names ++ [field] := by
  obtain ⟨fields⟩ := p
  simp only [insert, names] at h ⊢
  induction fields with
  | nil => simp [insertField]
  | cons e rest ih =>
    obtain ⟨name, old⟩ := e
    simp only [List.map_cons, List.mem_cons, not_or] at h
    obtain ⟨hname, hrest⟩ := h
    simp [insertField, Ne.symm hname, ih hrest]

theorem get?_insert (p : Predicate) (field name : String) (value : Value) :
    (p.insert field value).get? name = if name = field then some value else p.get? name := by
  obtain ⟨fields⟩ := p
  simp only [insert, get?]
  induction fields with
  | nil =>
    by_cases h : field = name
    · simp [insertField, h]
    · simp [insertField, h, Ne.symm h]
  | cons e rest ih =>
    obtain ⟨other, old⟩ := e
    by_cases hother : other = field
    · by_cases h : field = name
      · simp [insertField, hother, h]
      · simp [insertField, hother, h, Ne.symm h]
    · by_cases h : other = name
      · have hname : name ≠ field := fun heq => hother (h.trans heq)
        simp [insertField, h, hname]
      · simp [insertField, hother, h, ih]

@[simp] theorem names_mapValues (f : Value → Value) (p : Predicate) :
    (p.mapValues f).names = p.names := by
  simp [mapValues, names]

@[simp] theorem size_mapValues (f : Value → Value) (p : Predicate) :
    (p.mapValues f).size = p.size := by
  simp [mapValues, size]

theorem get?_mapValues (f : Value → Value) (p : Predicate) (name : String) :
    (p.mapValues f).get? name = (p.get? name).map f := by
  simp [mapValues, get?, List.find?_map, Function.comp_def]

end Predicate
end SearchCriteria
