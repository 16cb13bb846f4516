import SearchCriteria.Proofs.Scope.Registration

/-! Default scopes of dynamic parts. A part is resolved anew whenever the default scope is asked
for, but whether it is kept is decided once, by what it resolves to when it is registered. What is
kept is carried from then on, as it resolves later; what happens to say the same as the default
scope of that moment is not there when it would say something else. -/
namespace SearchCriteria

namespace SearchQuery

end SearchQuery

namespace ScopeBuilder

theorem compose_eq (catalog : Catalog) (parts : List ScopeBuilder) :
    compose catalog parts =
      if parts = [] then none
      else some (SearchQuery.mergeAll (parts.map fun part => part.resolve catalog [])) := by
  cases parts with
  | nil => rfl
  | cons part parts => simp [compose, SearchQuery.mergeAll, List.foldl_map]

theorem isSameDefault_iff (catalog : Catalog) (parts : List ScopeBuilder) (part : ScopeBuilder) :
    isSameDefault catalog parts part = true ↔
      ∃ current, compose catalog parts = some current ∧
        ({} : SearchQuery).merge (part.resolve catalog []) = current := by
  rw [isSameDefault]
  cases compose catalog parts <;> simp [eq_comm]

end ScopeBuilder

namespace Registry

variable {r : Registry} {catalog : Catalog}

theorem getD_defaultQuery (r : Registry) (catalog : Catalog) :
    (r.defaultQuery catalog).getD {} =
      SearchQuery.mergeAll (r.defaults.map fun part => part.resolve catalog []) := by
  rw [defaultQuery, ScopeBuilder.compose_eq]
  split
  · rename_i hnone
    rw [hnone]
    rfl
  · rfl

end Registry

/-- The part that a registration adds to the default scope, unless it is ignored because the scope
is what the part would be alone. -/
def Registration.kept? (r : Registry) (catalog : Catalog) : Registration → Option ScopeBuilder
  | operation _ _ => none
  | default part =>
    if r.defaultQuery catalog = some (({} : SearchQuery).merge (part.resolve catalog [])) then none
    else some part

namespace Registry

variable {r : Registry} {catalog : Catalog}

theorem isSameDefault_eq_true_iff (part : ScopeBuilder) :
    ScopeBuilder.isSameDefault catalog r.defaults part = true ↔
      r.defaultQuery catalog = some (({} : SearchQuery).merge (part.resolve catalog [])) := by
  rw [ScopeBuilder.isSameDefault_iff, defaultQuery]
  constructor
  · rintro ⟨current, hcurrent, rfl⟩
    exact hcurrent
  · exact fun h => ⟨_, h, rfl⟩

theorem defaults_register_eq (r : Registry) (catalog : Catalog) (reg : Registration) :
    (r.register catalog reg).2.defaults = r.defaults ++ (reg.kept? r catalog).toList := by
  cases reg with
  | operation name e => cases e <;> exact (List.append_nil r.defaults).symm
  | default part =>
    rw [register, composeDefault, Registration.kept?]
    by_cases hsame : ScopeBuilder.isSameDefault catalog r.defaults part = true
    · rw [if_pos hsame, if_pos ((isSameDefault_eq_true_iff part).1 hsame)]
      exact (List.append_nil r.defaults).symm
    · rw [if_neg hsame, if_neg (mt (isSameDefault_eq_true_iff part).2 hsame)]
      rfl

theorem defaults_register (r : Registry) (catalog : Catalog) (reg : Registration) :
    r.defaults <+: (r.register catalog reg).2.defaults :=
  ⟨_, (r.defaults_register_eq catalog reg).symm⟩

end Registry

theorem Model.query_withDefaultScope_new (m : Model) (rs : Registries) :
    (m.withDefaultScope rs {}).query =
      SearchQuery.mergeAll ((rs m.id).defaults.map fun part => part.resolve rs.catalog []) := by
  have hbase : m.baseQuery rs {} = (m.defaultQuery rs).getD {} := rfl
  rw [withDefaultScope_of_frames_nil rfl, hbase]
  exact (rs m.id).getD_defaultQuery rs.catalog

namespace World

variable {w : World} {m : Model}

end World

end SearchCriteria
