import Mathlib.Data.List.Induction
import SearchCriteria.Config.Load

/-! Variables of the environment. A variable has the value that it was given last. Some of them lead
to settings, in whatever case they are spelled; of those that lead to the same setting the one that
stands last in the environment counts. -/
namespace SearchCriteria

open NameTable

theorem get?_setVariable (name value other : String) (env : List (String × String)) :
    get? other (setVariable name value env) =
      if other = name then some value else get? other env := by
  induction env with
  | nil => simp [setVariable, get?]
  | cons e rest ih =>
    obtain ⟨key, old⟩ := e
    by_cases hkey : key = name
    · subst hkey
      by_cases h : other = key <;> simp [setVariable, get?, h]
    · by_cases h : other = key
      · subst h
        simp [setVariable, get?, hkey]
      · simp [setVariable, get?, hkey, h, ih]

theorem names_setVariable (name value : String) (env : List (String × String)) :
    names (setVariable name value env) =
      if name ∈ names env then names env else names env ++ [name] := by
  induction env with
  | nil => simp [setVariable, names]
  | cons e rest ih =>
    obtain ⟨key, old⟩ := e
    by_cases hkey : key = name
    · simp [setVariable, names, hkey]
    · simp only [names] at ih
      by_cases hmem : name ∈ rest.map Prod.fst <;>
        simp [setVariable, names, hkey, Ne.symm hkey, ih, hmem]

theorem environment_concat (assignments : List (String × String)) (e : String × String) :
    environment (assignments ++ [e]) = setVariable e.1 e.2 (environment assignments) := by
  simp [environment]

theorem get?_environment (name : String) (assignments : List (String × String)) :
    get? name (environment assignments) = last? name assignments := by
  induction assignments using List.reverseRecOn with
  | nil => rfl
  | append_singleton assignments e ih =>
    rw [environment_concat, get?_setVariable, last?_concat, ih]

theorem nodup_environment (assignments : List (String × String)) :
    (names (environment assignments)).Nodup := by
  induction assignments using List.reverseRecOn with
  | nil => exact List.nodup_nil
  | append_singleton assignments e ih =>
    rw [environment_concat, names_setVariable]
    split
    · exact ih
    · next hnew =>
      refine List.nodup_append.2 ⟨ih, List.pairwise_singleton _ _, fun old hold new hmem heq => ?_⟩
      exact hnew (List.mem_singleton.1 hmem ▸ heq ▸ hold)

theorem mem_names_of_mem_environment {assignments : List (String × String)} {e : String × String}
    (h : e ∈ environment assignments) : e.1 ∈ names assignments := by
  have hname : e.1 ∈ names (environment assignments) := List.mem_map_of_mem h
  rw [mem_names_iff, get?_environment] at hname
  by_contra habsent
  rw [(last?_eq_none_iff e.1 assignments).2 habsent] at hname
  cases hname

def assigned? (path : String) (env : List (String × String)) : Option String :=
  last? path (env.filterMap fun e => (variablePath? e.1).map fun p => (p, e.2))

theorem assigned?_concat (path : String) (env : List (String × String)) (e : String × String) :
    assigned? path (env ++ [e]) =
      if variablePath? e.1 = some path then some e.2 else assigned? path env := by
  rw [assigned?, List.filterMap_append]
  cases hpath : variablePath? e.1 with
  | none => simp [hpath, assigned?]
  | some p =>
    simp only [List.filterMap_cons, List.filterMap_nil, hpath, Option.map_some, last?_concat,
      Option.some_inj, eq_comm (a := path)]
    rfl

/-- A setting to which one variable leads has the value that this variable was given last. -/
theorem assigned?_environment {name path : String} {assignments : List (String × String)}
    (hpath : variablePath? name = some path)
    (hname : ∀ other ∈ names assignments, variablePath? other = some path → other = name) :
    assigned? path (environment assignments) = last? name assignments := by
  have hread (env : List (String × String)) (henv : ∀ e ∈ env, e.1 ∈ names assignments) :
      assigned? path env = last? name env := by
    induction env using List.reverseRecOn with
    | nil => rfl
    | append_singleton env e ih =>
      have hsame : variablePath? e.1 = some path ↔ name = e.1 := by
        constructor
        · exact fun h => (hname e.1 (henv e (by simp)) h).symm
        · rintro rfl
          exact hpath
      rw [assigned?_concat, last?_concat, ih fun d hd => henv d (by simp [hd])]
      simp only [hsame]
  rw [hread _ fun e he => mem_names_of_mem_environment he, last?_eq_get? (nodup_environment _),
    get?_environment]

theorem last?_variableSettings (path : String) (env : List (String × String)) :
    last? path (variableSettings env) = (assigned? path env).map Setting.ofVariable := by
  rw [variableSettings, last?_eq_get? (sorted_ofList _).nodup, get?_ofList, assigned?, ← last?_map,
    List.map_filterMap]
  congr 2
  funext e
  cases variablePath? e.1 <;> rfl

theorem mem_variableSettings {env : List (String × String)} {entry : String × Setting}
    (h : entry ∈ variableSettings env) :
    ∃ e ∈ env, variablePath? e.1 = some entry.1 ∧ entry.2 = Setting.ofVariable e.2 := by
  obtain ⟨e, he, hentry⟩ := List.mem_filterMap.1 (mem_of_mem_ofList h)
  obtain ⟨p, hp, rfl⟩ := Option.map_eq_some_iff.1 hentry
  exact ⟨e, he, hp, rfl⟩

end SearchCriteria
