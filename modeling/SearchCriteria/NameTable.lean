/-! Tables from names to values, kept in the order of the names.
Setting a name replaces its value in place, so reading a name gives what it was last set to. -/
namespace SearchCriteria

/-- Entries in increasing order of their names, which is the order of their bytes. -/
abbrev NameTable (α : Type) := List (String × α)

namespace NameTable

variable {α β : Type}

def get? (name : String) : NameTable α → Option α
  | [] => none
  | (key, value) :: rest => if name = key then some value else get? name rest

def contains (name : String) (t : NameTable α) : Bool := (get? name t).isSome

def set (name : String) (value : α) : NameTable α → NameTable α
  | [] => [(name, value)]
  | (key, old) :: rest =>
    if name = key then (name, value) :: rest
    else if name < key then (name, value) :: (key, old) :: rest
    else (key, old) :: set name value rest

def remove (name : String) : NameTable α → NameTable α
  | [] => []
  | (key, value) :: rest =>
    if name = key then remove name rest else (key, value) :: remove name rest

def names (t : NameTable α) : List String := t.map Prod.fst

theorem names_append (t other : NameTable α) : names (t ++ other) = names t ++ names other :=
  List.map_append

theorem names_map (f : α → β) (t : NameTable α) :
    names (t.map fun e => (e.1, f e.2)) = names t := by
  simp [names]

/-- Entries set one after the other, so the last one of a name stays. -/
def ofList (entries : List (String × α)) : NameTable α :=
  entries.foldl (fun t e => set e.1 e.2 t) []

def extend (t other : NameTable α) : NameTable α :=
  other.foldl (fun t e => set e.1 e.2 t) t

@[simp] theorem get?_nil (name : String) : get? name ([] : NameTable α) = none := rfl

theorem get?_set (name other : String) (value : α) (t : NameTable α) :
    get? other (set name value t) = if other = name then some value else get? other t := by
  induction t with
  | nil => by_cases h : other = name <;> simp [set, get?, h]
  | cons e rest ih =>
    obtain ⟨key, old⟩ := e
    by_cases hk : name = key
    · subst hk; by_cases h : other = name <;> simp [set, get?, h]
    · by_cases hlt : name < key
      · by_cases h : other = name <;> simp [set, get?, hk, hlt, h]
      · by_cases h : other = key
        · subst h; simp [set, get?, hk, hlt, Ne.symm hk]
        · simp [set, get?, hk, hlt, h, ih]

theorem get?_remove (name other : String) (t : NameTable α) :
    get? other (remove name t) = if other = name then none else get? other t := by
  induction t with
  | nil => simp [remove]
  | cons e rest ih =>
    obtain ⟨key, value⟩ := e
    by_cases hk : name = key
    · subst hk
      by_cases h : other = name
      · subst h; simpa [remove] using ih
      · simp [remove, get?, h, ih]
    · by_cases h : other = key
      · subst h; simp [remove, get?, hk, Ne.symm hk]
      · simp [remove, get?, hk, h, ih]

@[simp] theorem contains_set (name other : String) (value : α) (t : NameTable α) :
    contains other (set name value t) = (other == name || contains other t) := by
  by_cases h : other = name <;> simp [contains, get?_set, h]

/-- The value that entries, set one after the other, leave a name with. -/
def last? (name : String) (entries : List (String × α)) : Option α := get? name entries.reverse

theorem get?_append (name : String) (t other : NameTable α) :
    get? name (t ++ other) = (get? name t).or (get? name other) := by
  induction t with
  | nil => rfl
  | cons e rest ih =>
    obtain ⟨key, value⟩ := e
    by_cases h : name = key <;> simp [get?, h, ih]

theorem get?_eq_none_iff (name : String) (t : NameTable α) :
    get? name t = none ↔ name ∉ names t := by
  induction t with
  | nil => simp [names]
  | cons e rest ih =>
    obtain ⟨key, value⟩ := e
    by_cases h : name = key <;> simp_all [get?, names]

theorem last?_append (name : String) (xs ys : List (String × α)) :
    last? name (xs ++ ys) = (last? name ys).or (last? name xs) := by
  rw [last?, List.reverse_append, get?_append, last?, last?]

theorem last?_eq_none_iff (name : String) (entries : List (String × α)) :
    last? name entries = none ↔ name ∉ names entries := by
  simp [last?, get?_eq_none_iff, names]

theorem last?_eq_none_of_contains {name : String} {t : NameTable α} (h : contains name t = false) :
    last? name t = none := by
  have hget : get? name t = none := by simpa [contains] using h
  rwa [last?_eq_none_iff, ← get?_eq_none_iff]

theorem get?_extend (name : String) (t other : NameTable α) :
    get? name (t.extend other) = (last? name other).or (get? name t) := by
  induction other generalizing t with
  | nil => rfl
  | cons e rest ih =>
    have hsplit : last? name (e :: rest) = (last? name rest).or (last? name [e]) :=
      last?_append name [e] rest
    have hset : get? name (set e.1 e.2 t) = (last? name [e]).or (get? name t) := by
      rw [get?_set]
      by_cases h : name = e.1 <;> simp [last?, get?, h]
    rw [extend, List.foldl_cons, ← extend, ih, hset, hsplit, Option.or_assoc]

theorem get?_ofList (name : String) (entries : List (String × α)) :
    get? name (ofList entries) = last? name entries := by
  have h := get?_extend name [] entries
  rwa [get?_nil, Option.or_none] at h

theorem extend_ofList (xs ys : List (String × α)) :
    (ofList xs).extend ys = ofList (xs ++ ys) := by
  rw [ofList, extend, ofList, List.foldl_append]

theorem mem_names_iff (name : String) (t : NameTable α) :
    name ∈ names t ↔ (get? name t).isSome = true := by
  rw [Option.isSome_iff_ne_none, ne_eq, get?_eq_none_iff, Classical.not_not]

theorem mem_names_set (name other : String) (value : α) (t : NameTable α) :
    other ∈ names (set name value t) ↔ other = name ∨ other ∈ names t := by
  rw [mem_names_iff, get?_set, mem_names_iff]
  by_cases h : other = name <;> simp [h]

theorem mem_names_remove (name other : String) (t : NameTable α) :
    other ∈ names (remove name t) ↔ other ≠ name ∧ other ∈ names t := by
  rw [mem_names_iff, get?_remove, mem_names_iff]
  by_cases h : other = name <;> simp [h]

def Sorted (t : NameTable α) : Prop := (names t).Pairwise (· < ·)

instance (t : NameTable α) : Decidable t.Sorted :=
  inferInstanceAs (Decidable ((names t).Pairwise (· < ·)))

theorem Sorted.set {t : NameTable α} (h : t.Sorted) (name : String) (value : α) :
    (NameTable.set name value t).Sorted := by
  induction t with
  | nil => exact List.pairwise_singleton _ name
  | cons e rest ih =>
    obtain ⟨key, old⟩ := e
    obtain ⟨hkey, hrest⟩ := List.pairwise_cons.1 h
    unfold NameTable.set
    split
    · rename_i heq
      rw [heq]
      exact h
    · rename_i hne
      split
      · rename_i hlt
        refine List.pairwise_cons.2 ⟨fun other hother => ?_, h⟩
        rcases List.mem_cons.1 hother with rfl | hmem
        · exact hlt
        · exact String.lt_trans hlt (hkey other hmem)
      · rename_i hlt
        refine List.pairwise_cons.2 ⟨fun other hother => ?_, ih hrest⟩
        rcases (mem_names_set name other value rest).1 hother with rfl | hmem
        · exact Std.lt_of_le_of_ne (String.not_lt.1 hlt) (Ne.symm hne)
        · exact hkey other hmem

theorem Sorted.remove {t : NameTable α} (h : t.Sorted) (name : String) :
    (NameTable.remove name t).Sorted := by
  induction t with
  | nil => exact List.Pairwise.nil
  | cons e rest ih =>
    obtain ⟨key, value⟩ := e
    obtain ⟨hkey, hrest⟩ := List.pairwise_cons.1 h
    unfold NameTable.remove
    split
    · exact ih hrest
    · refine List.pairwise_cons.2 ⟨fun other hother => ?_, ih hrest⟩
      exact hkey other ((mem_names_remove name other rest).1 hother).2

theorem Sorted.filter {t : NameTable α} (h : t.Sorted) (p : String × α → Bool) :
    NameTable.Sorted (List.filter p t) :=
  List.Pairwise.sublist (List.filter_sublist.map Prod.fst) h

theorem mem_iff_of_nodup {t : NameTable α} (h : (names t).Nodup) {name : String} {value : α} :
    (name, value) ∈ t ↔ get? name t = some value := by
  induction t with
  | nil => simp
  | cons e rest ih =>
    obtain ⟨key, old⟩ := e
    obtain ⟨hkey, hrest⟩ := List.nodup_cons.1 h
    by_cases hname : name = key
    · subst hname
      have hother : (name, value) ∉ rest := fun hmem =>
        hkey (List.mem_map.2 ⟨(name, value), hmem, rfl⟩)
      simp [get?, hother, eq_comm]
    · simp [get?, hname, ih hrest]

theorem Sorted.nodup {t : NameTable α} (h : t.Sorted) : (names t).Nodup := by
  refine List.Pairwise.imp (fun {a b} hlt => ?_) h
  rintro rfl
  exact String.lt_irrefl a hlt

theorem Sorted.mem_iff {t : NameTable α} (h : t.Sorted) {name : String} {value : α} :
    (name, value) ∈ t ↔ get? name t = some value :=
  mem_iff_of_nodup h.nodup

theorem Sorted.mem_set {t : NameTable α} (h : t.Sorted) {name other : String} {value v : α} :
    (other, v) ∈ NameTable.set name value t ↔
      other = name ∧ v = value ∨ other ≠ name ∧ (other, v) ∈ t := by
  rw [(h.set name value).mem_iff, get?_set, h.mem_iff]
  by_cases hname : other = name <;> simp [hname, eq_comm]

theorem mem_names_of_get? {name : String} {value : α} {t : NameTable α}
    (h : get? name t = some value) : name ∈ names t := by
  rw [mem_names_iff, h, Option.isSome_some]

theorem Sorted.get?_tail {key : String} {value : α} {t : NameTable α}
    (h : Sorted ((key, value) :: t)) (name : String) :
    get? name t = if name = key then none else get? name ((key, value) :: t) := by
  obtain ⟨hkey, -⟩ := List.pairwise_cons.1 h
  by_cases hname : name = key
  · have habsent : name ∉ names t := fun hmem => by
      subst hname
      exact String.lt_irrefl name (hkey name hmem)
    rw [if_pos hname, get?_eq_none_iff]
    exact habsent
  · simp [get?, hname]

theorem Sorted.ext {t u : NameTable α} (ht : t.Sorted) (hu : u.Sorted)
    (h : ∀ name, get? name t = get? name u) : t = u := by
  induction t generalizing u with
  | nil =>
    cases u with
    | nil => rfl
    | cons e rest => simpa [get?] using h e.1
  | cons e rest ih =>
    cases u with
    | nil => simpa [get?] using h e.1
    | cons d others =>
      obtain ⟨key, value⟩ := e
      obtain ⟨other, v⟩ := d
      obtain ⟨hkey, hrest⟩ := List.pairwise_cons.1 ht
      obtain ⟨hother, hothers⟩ := List.pairwise_cons.1 hu
      have hin : key ∈ names ((other, v) :: others) :=
        mem_names_of_get? ((h key).symm.trans (by simp [get?] : _ = some value))
      have hback : other ∈ names ((key, value) :: rest) :=
        mem_names_of_get? ((h other).trans (by simp [get?] : _ = some v))
      -- Each of the two first names is the least of both tables.
      have hname : key = other := by
        rcases List.mem_cons.1 hin with heq | hin
        · exact heq
        · rcases List.mem_cons.1 hback with heq | hback
          · exact heq.symm
          · exact absurd (String.lt_trans (hkey other hback) (hother key hin))
              (String.lt_irrefl key)
      subst hname
      have hvalue : value = v := by simpa [get?] using h key
      have htail : rest = others := ih hrest hothers fun name => by
        rw [ht.get?_tail, hu.get?_tail, h]
      rw [hvalue, htail]

theorem last?_eq_get? {t : NameTable α} (h : (names t).Nodup) (name : String) :
    last? name t = get? name t := by
  induction t with
  | nil => rfl
  | cons e rest ih =>
    obtain ⟨key, value⟩ := e
    obtain ⟨hkey, hrest⟩ := List.nodup_cons.1 h
    have hsplit : last? name ((key, value) :: rest) =
        (last? name rest).or (last? name [(key, value)]) := last?_append name [(key, value)] rest
    rw [hsplit]
    by_cases hname : name = key
    · subst hname
      rw [(last?_eq_none_iff name rest).2 hkey]
      simp [last?, get?]
    · rw [ih hrest]
      simp [last?, get?, hname]

theorem Sorted.extend {t : NameTable α} (h : t.Sorted) (other : NameTable α) :
    (t.extend other).Sorted := by
  induction other generalizing t with
  | nil => exact h
  | cons e rest ih => exact ih (h.set e.1 e.2)

theorem sorted_ofList (entries : List (String × α)) : (ofList entries).Sorted := by
  have hnil : Sorted ([] : NameTable α) := List.Pairwise.nil
  exact hnil.extend entries

theorem mem_of_get? {name : String} {value : α} {t : NameTable α} (h : get? name t = some value) :
    (name, value) ∈ t := by
  induction t with
  | nil => cases h
  | cons e rest ih =>
    obtain ⟨key, old⟩ := e
    by_cases hname : name = key
    · simp_all [get?]
    · exact List.mem_cons_of_mem _ (ih (by simpa [get?, hname] using h))

theorem mem_of_mem_ofList {entries : List (String × α)} {e : String × α} (h : e ∈ ofList entries) :
    e ∈ entries := by
  have hget : get? e.1 (ofList entries) = some e.2 := (sorted_ofList entries).mem_iff.1 h
  rw [get?_ofList] at hget
  exact List.mem_reverse.1 (mem_of_get? hget)

theorem last?_map (f : α → β) (name : String) (entries : List (String × α)) :
    last? name (entries.map fun e => (e.1, f e.2)) = (last? name entries).map f := by
  unfold last?
  rw [← List.map_reverse]
  induction entries.reverse with
  | nil => rfl
  | cons e rest ih =>
    obtain ⟨key, value⟩ := e
    by_cases hname : name = key <;> simp [get?, hname, ih]

theorem last?_concat (name : String) (entries : List (String × α)) (e : String × α) :
    last? name (entries ++ [e]) = if name = e.1 then some e.2 else last? name entries := by
  rw [last?_append]
  by_cases h : name = e.1 <;> simp [last?, get?, h]

end NameTable
end SearchCriteria
