import SearchCriteria.Proofs.Selector.Meaning
import SearchCriteria.World

/-! Default scopes of fixed queries. A value is left out if the scope is that value already; then
the scope is the value in parentheses, so that adding it again would say the same thing twice. -/
namespace SearchCriteria

namespace SearchQuery

def mergeAll (vs : List SearchQuery) : SearchQuery := vs.foldl merge {}

theorem mergeAll_concat (vs : List SearchQuery) (v : SearchQuery) :
    mergeAll (vs ++ [v]) = (mergeAll vs).merge v := by
  simp [mergeAll]

theorem selector_mergeAll (vs : List SearchQuery) :
    (mergeAll vs).selector = joined .and (solid (vs.map selector)) := by
  have hops : mergeAll vs = ({} : SearchQuery).applyAll (vs.map .merge) := by
    rw [applyAll, List.foldl_map]
    rfl
  rw [hops, selector_applyAll, contributions, List.map_map]
  rfl

theorem isBlank_mergeAll_iff {vs : List SearchQuery} :
    (mergeAll vs).isBlank = true ↔ (mergeAll vs).selector = "" := by
  have hblank := isBlank_joined .and (solid (vs.map selector))
  rw [isBlank, selector_mergeAll]
  constructor
  · intro h
    rw [hblank, List.isEmpty_iff] at h
    rw [h, joined_nil]
  · intro h
    rw [h, Text.isBlank_empty]

theorem options_foldl_merge (vs : List SearchQuery) (q : SearchQuery) :
    (vs.foldl merge q).options = (vs.map options).foldl QueryOptions.merge q.options := by
  rw [List.foldl_map]
  exact (List.foldl_hom options fun q v => rfl).symm

theorem options_mergeAll (vs : List SearchQuery) :
    (mergeAll vs).options = (vs.map options).foldl QueryOptions.merge {} :=
  options_foldl_merge vs {}

/-- A query by itself is one restriction, unless it is blank. -/
theorem empty_merge (v : SearchQuery) :
    ({} : SearchQuery).merge v = ⟨joined .and (solid [v.selector]), v.options⟩ := by
  have hselector := pushRestriction_joined .and [] v.selector
  rw [joined_nil, List.nil_append] at hselector
  rw [merge, hselector, QueryOptions.empty_merge]

theorem empty_merge_eq_iff {q v : SearchQuery} :
    ({} : SearchQuery).merge v = q ↔
      (if Text.isBlank v.selector then q.selector = "" else q.selector = "(" ++ v.selector ++ ")") ∧
        q.options = v.options := by
  obtain ⟨selector, options⟩ := q
  rw [empty_merge, mk.injEq, eq_comm (a := v.options)]
  refine and_congr_left fun _ => ?_
  cases hb : Text.isBlank v.selector with
  | true =>
    have hsolid : solid [v.selector] = [] := by simp [solid, hb]
    rw [hsolid, joined_nil, if_pos rfl, eq_comm]
  | false =>
    have hsolid : solid [v.selector] = [v.selector] := by simp [solid, hb]
    rw [hsolid, if_neg Bool.false_ne_true, eq_comm]
    rfl

/-- What `v` by itself becomes when `v` is added again: nothing else, or twice the same. -/
theorem merge_again {q v : SearchQuery} (h : ({} : SearchQuery).merge v = q) :
    q.merge v =
      { q with
        selector := if Text.isBlank v.selector then q.selector
          else q.selector ++ " AND " ++ q.selector } := by
  obtain ⟨hselector, hoptions⟩ := empty_merge_eq_iff.1 h
  have hsame : q.options.merge v.options = q.options := by rw [hoptions, QueryOptions.merge_self]
  rw [merge, hsame, mk.injEq]
  refine ⟨?_, rfl⟩
  cases hb : Text.isBlank v.selector with
  | true => rw [pushRestriction_blank hb, if_pos rfl]
  | false =>
    rw [if_neg (by simp [hb])] at hselector
    rw [pushRestriction_solid hb, if_neg Bool.false_ne_true, hselector, joint_closed]
    rfl

theorem eval_merge_again {q v : SearchQuery} (h : ({} : SearchQuery).merge v = q) {e : Expr}
    (he : e.WellFormed) (htext : e.text = v.selector) :
    ∃ once twice, Expr.parse? q.selector = some once ∧
      Expr.parse? (q.merge v).selector = some twice ∧
      ∀ holds, once.eval holds = e.eval holds ∧ twice.eval holds = e.eval holds := by
  have hb : Text.isBlank v.selector = false := by
    rw [← htext]
    exact Expr.isBlank_text he
  have hq : q.selector = e.group.text := by
    have hselector := (empty_merge_eq_iff.1 h).1
    rwa [if_neg (by simp [hb]), ← htext] at hselector
  have hagain : (q.merge v).selector = (Expr.join .and e.group e.group).text := by
    rw [merge_again h, if_neg (by simp [hb]), hq]
    rfl
  refine ⟨e.group, .join .and e.group e.group, ?_, ?_, fun holds => ⟨rfl, ?_⟩⟩
  · exact Expr.parse?_eq_some_iff.2 ⟨he, hq.symm⟩
  · exact Expr.parse?_eq_some_iff.2 ⟨⟨trivial, he, trivial, he⟩, hagain.symm⟩
  · exact Bool.and_self _

end SearchQuery

namespace ScopeBuilder

theorem compose_fixed (catalog : Catalog) (vs : List SearchQuery) :
    compose catalog (vs.map .fixed) = if vs = [] then none else some (SearchQuery.mergeAll vs) := by
  cases vs with
  | nil => rfl
  | cons v vs => simp [compose, SearchQuery.mergeAll, List.foldl_map]

theorem isSameDefault_fixed (catalog : Catalog) (vs : List SearchQuery) (v : SearchQuery) :
    isSameDefault catalog (vs.map .fixed) (.fixed v) = true ↔
      vs ≠ [] ∧ ({} : SearchQuery).merge v = SearchQuery.mergeAll vs := by
  rw [isSameDefault, compose_fixed]
  by_cases h : vs = []
  · simp [h]
  · rw [if_neg h]
    exact ⟨fun hsame => ⟨h, of_decide_eq_true hsame⟩, fun hsame => decide_eq_true hsame.2⟩

end ScopeBuilder

namespace Registry

def composeAll (catalog : Catalog) (r : Registry) (vs : List SearchQuery) : Registry :=
  vs.foldl (fun r v => (r.composeDefault catalog (.fixed v)).2) r

/-- The values among them that were not left out. -/
def accepted (catalog : Catalog) : Registry → List SearchQuery → List SearchQuery
  | _, [] => []
  | r, v :: vs =>
    let next := r.composeDefault catalog (.fixed v)
    (if next.1 then [v] else []) ++ accepted catalog next.2 vs

variable {r : Registry}

theorem composeDefault_ignored {catalog : Catalog} {part : ScopeBuilder}
    (hv : (r.composeDefault catalog part).1 = false) : (r.composeDefault catalog part).2 = r := by
  rw [composeDefault] at hv ⊢
  split at hv <;> simp_all

theorem composeDefault_accepted {catalog : Catalog} {part : ScopeBuilder}
    (hv : (r.composeDefault catalog part).1 = true) :
    (r.composeDefault catalog part).2 = r.pushDefault part := by
  rw [composeDefault] at hv ⊢
  split at hv <;> simp_all

/-- The default scope is made of the `kept` ones among the values `vs`, and has all their
options. -/
structure Composed (r : Registry) (vs kept : List SearchQuery) : Prop where
  defaults : r.defaults = kept.map .fixed
  empty_iff : kept = [] ↔ vs = []
  options : (SearchQuery.mergeAll kept).options = (SearchQuery.mergeAll vs).options

namespace Composed

variable {vs kept : List SearchQuery}

theorem start (h : r.defaults = []) : r.Composed [] [] := ⟨h, Iff.rfl, rfl⟩

theorem defaultQuery_eq (h : r.Composed vs kept) (catalog : Catalog) :
    r.defaultQuery catalog = if kept = [] then none else some (SearchQuery.mergeAll kept) := by
  rw [defaultQuery, h.defaults, ScopeBuilder.compose_fixed]

/-- A value is left out exactly if the scope is that value by itself. -/
theorem ignored_iff (h : r.Composed vs kept) (catalog : Catalog) (v : SearchQuery) :
    (r.composeDefault catalog (.fixed v)).1 = false ↔
      kept ≠ [] ∧ ({} : SearchQuery).merge v = SearchQuery.mergeAll kept := by
  rw [← ScopeBuilder.isSameDefault_fixed catalog, composeDefault, h.defaults]
  cases ScopeBuilder.isSameDefault catalog (kept.map .fixed) (.fixed v) <;> simp

theorem ignore (h : r.Composed vs kept) {v : SearchQuery} (hkept : kept ≠ [])
    (hsame : ({} : SearchQuery).merge v = SearchQuery.mergeAll kept) :
    r.Composed (vs ++ [v]) kept := by
  have hoptions : (SearchQuery.mergeAll kept).options = v.options :=
    (SearchQuery.empty_merge_eq_iff.1 hsame).2
  refine ⟨h.defaults, by simp [hkept], ?_⟩
  rw [SearchQuery.mergeAll_concat, SearchQuery.merge, ← h.options, hoptions,
    QueryOptions.merge_self]

theorem accept (h : r.Composed vs kept) (v : SearchQuery) :
    (r.pushDefault (.fixed v)).Composed (vs ++ [v]) (kept ++ [v]) := by
  refine ⟨?_, by simp, ?_⟩
  · rw [pushDefault, h.defaults, List.map_append]
    rfl
  · rw [SearchQuery.mergeAll_concat, SearchQuery.mergeAll_concat, SearchQuery.merge,
      SearchQuery.merge, h.options]

theorem step (h : r.Composed vs kept) (catalog : Catalog) (v : SearchQuery) :
    (r.composeDefault catalog (.fixed v)).2.Composed (vs ++ [v])
      (kept ++ if (r.composeDefault catalog (.fixed v)).1 then [v] else []) := by
  cases hv : (r.composeDefault catalog (.fixed v)).1 with
  | false =>
    obtain ⟨hkept, hsame⟩ := (h.ignored_iff catalog v).1 hv
    rw [composeDefault_ignored hv, if_neg Bool.false_ne_true, List.append_nil]
    exact h.ignore hkept hsame
  | true =>
    rw [composeDefault_accepted hv, if_pos rfl]
    exact h.accept v

theorem steps (h : r.Composed vs kept) (catalog : Catalog) (more : List SearchQuery) :
    (r.composeAll catalog more).Composed (vs ++ more) (kept ++ r.accepted catalog more) := by
  induction more generalizing r vs kept with
  | nil => simpa [composeAll, accepted] using h
  | cons v more ih =>
    have haccepted : r.accepted catalog (v :: more) =
        (if (r.composeDefault catalog (.fixed v)).1 then [v] else []) ++
          (r.composeDefault catalog (.fixed v)).2.accepted catalog more := rfl
    rw [haccepted, ← List.append_assoc, List.append_cons vs]
    exact ih (h.step catalog v)

theorem composeDefault_catalog (h : r.Composed vs kept) (catalog catalog' : Catalog)
    (v : SearchQuery) :
    r.composeDefault catalog (.fixed v) = r.composeDefault catalog' (.fixed v) := by
  have hsame : ScopeBuilder.isSameDefault catalog r.defaults (.fixed v) =
      ScopeBuilder.isSameDefault catalog' r.defaults (.fixed v) := by
    rw [h.defaults, Bool.eq_iff_iff, ScopeBuilder.isSameDefault_fixed,
      ScopeBuilder.isSameDefault_fixed]
  rw [composeDefault, composeDefault, hsame]

end Composed
end Registry

namespace World

def defaultScopes (m : Model) (vs : List SearchQuery) (w : World) : World :=
  vs.foldl (fun w v => w.defaultScope m (.fixed v)) w

variable {m : Model} {w : World}

theorem registries_update (hm : m.id < w.models.length) (f : ModelState → ModelState) :
    (w.update m f).registries m.id = (f (w.state m)).registry := by
  simp [registries, update, state, hm]

theorem registry_state (w : World) (m : Model) : (w.state m).registry = w.registries m.id := by
  cases h : w.models[m.id]? <;> simp [registries, state, h]

theorem defaultScope_spec (hm : m.id < w.models.length) (part : ScopeBuilder) :
    (w.defaultScope m part).registries m.id =
        ((w.registries m.id).composeDefault w.catalog part).2 ∧
      m.id < (w.defaultScope m part).models.length := by
  have hdef : w.defaultScope m part =
      if ((w.registries m.id).composeDefault w.catalog part).1 then
        w.update m fun s =>
          { s with registry := ((w.registries m.id).composeDefault w.catalog part).2 }
      else w.log (.defaultUnchanged m.collection) := by
    rw [defaultScope, registry_state]
  rw [hdef]
  cases hchanged : ((w.registries m.id).composeDefault w.catalog part).1 with
  | false =>
    rw [Registry.composeDefault_ignored hchanged]
    exact ⟨rfl, hm⟩
  | true => exact ⟨registries_update hm _, by simpa [update] using hm⟩

theorem registries_defaultScopes (hm : m.id < w.models.length) {vs kept : List SearchQuery}
    (h : (w.registries m.id).Composed vs kept) (catalog : Catalog) (more : List SearchQuery) :
    (w.defaultScopes m more).registries m.id = (w.registries m.id).composeAll catalog more := by
  induction more generalizing w vs kept with
  | nil => rfl
  | cons v more ih =>
    obtain ⟨hregistry, hlength⟩ := defaultScope_spec hm (.fixed v)
    have hsame := h.composeDefault_catalog w.catalog catalog v
    have hnext := h.step catalog v
    rw [hsame] at hregistry
    rw [← hregistry] at hnext
    have hmore := ih hlength hnext
    rw [hregistry] at hmore
    exact hmore

/-- A default scope of fixed values joins the selectors of those that were kept, and has the options
of all. What was left out would ask for the same again. -/
theorem fixed_defaults_kept (hm : m.id < w.models.length)
    (hnone : (w.registries m.id).defaults = [])
    (catalog : Catalog) (vs : List SearchQuery) :
    let r := (w.registries m.id).composeAll catalog vs
    let kept := (w.registries m.id).accepted catalog vs
    let q? := r.defaultQuery catalog
    (w.defaultScopes m vs).registries m.id = r ∧
    m.defaultQuery (w.defaultScopes m vs).registries = q? ∧
    (q? = none ↔ vs = []) ∧
    (∀ q, q? = some q →
      q.selector = " AND ".intercalate
        ((SearchQuery.solid (kept.map (·.selector))).map fun f => "(" ++ f ++ ")") ∧
      q.options = (vs.map (·.options)).foldl QueryOptions.merge {}) ∧
    -- What is left out, and what it would have added.
    (∀ v, (r.composeDefault catalog (.fixed v)).1 = false ↔
      ∃ q, q? = some q ∧ q.options = v.options ∧
        ((Text.isBlank v.selector = false ∧ q.selector = "(" ++ v.selector ++ ")") ∨
          (Text.isBlank v.selector = true ∧ q.isBlank = true))) ∧
    (∀ v q, (r.composeDefault catalog (.fixed v)).1 = false → q? = some q →
      ∃ again, (r.pushDefault (.fixed v)).defaultQuery catalog = some again ∧
        again.options = q.options ∧
        again.selector = (if Text.isBlank v.selector then q.selector
          else q.selector ++ " AND " ++ q.selector) ∧
        ∀ e : Expr, e.WellFormed → e.text = v.selector →
          ∃ once twice, Expr.parse? q.selector = some once ∧
            Expr.parse? again.selector = some twice ∧
            ∀ holds, once.eval holds = e.eval holds ∧ twice.eval holds = e.eval holds) := by
  intro r kept q?
  have hr : r.Composed vs kept := (Registry.Composed.start hnone).steps catalog vs
  have hregistry := registries_defaultScopes hm (.start hnone) catalog vs
  have hquery : q? = if kept = [] then none else some (SearchQuery.mergeAll kept) :=
    hr.defaultQuery_eq catalog
  have hsome : ∀ q, q? = some q ↔ kept ≠ [] ∧ SearchQuery.mergeAll kept = q := by
    intro q
    rw [hquery]
    by_cases h : kept = [] <;> simp [h]
  refine ⟨hregistry, ?_, ?_, fun q hq => ?_, fun v => ?_, fun v q hv hq => ?_⟩
  · rw [Model.defaultQuery, hregistry, hr.defaultQuery_eq, hquery]
  · rw [hquery, ← hr.empty_iff]
    by_cases h : kept = [] <;> simp [h]
  · obtain ⟨-, rfl⟩ := (hsome q).1 hq
    refine ⟨SearchQuery.selector_mergeAll kept, ?_⟩
    rw [hr.options, SearchQuery.options_mergeAll]
  · rw [hr.ignored_iff catalog v, SearchQuery.empty_merge_eq_iff]
    simp only [hsome, ← SearchQuery.isBlank_mergeAll_iff]
    constructor
    · rintro ⟨hkept, hselector, hoptions⟩
      refine ⟨_, ⟨hkept, rfl⟩, hoptions, ?_⟩
      cases hb : Text.isBlank v.selector <;> simp_all
    · rintro ⟨q, ⟨hkept, rfl⟩, hoptions, hselector⟩
      refine ⟨hkept, ?_, hoptions⟩
      cases hb : Text.isBlank v.selector <;> simp_all
  · obtain ⟨hkept, rfl⟩ := (hsome q).1 hq
    obtain ⟨-, hsame⟩ := (hr.ignored_iff catalog v).1 hv
    have hagain := (hr.accept v).defaultQuery_eq catalog
    rw [if_neg (by simp), SearchQuery.mergeAll_concat] at hagain
    refine ⟨_, hagain, ?_, ?_, fun e he htext => SearchQuery.eval_merge_again hsame he htext⟩
    · rw [SearchQuery.merge_again hsame]
    · rw [SearchQuery.merge_again hsame]

/-- One value twice, of which the second is left out, then an option and another value. -/
theorem fixed_defaults_kept_repeated :
    let people : Model := { id := 0, collection := "people" }
    let w : World := { models := [{ model := people }] }
    let adults : SearchQuery := { selector := "age:[18 TO *]", options := { rows := some 5 } }
    let r := (w.registries 0).composeAll w.catalog [adults]
    people.id < w.models.length ∧ (w.registries people.id).defaults = [] ∧
    (r.composeDefault w.catalog (.fixed adults)).1 = false ∧
    people.defaultQuery (w.defaultScopes people
        [adults, adults, { options := { start := some 2 } }, { selector := "a:1" }]).registries =
      some { selector := "(age:[18 TO *]) AND (a:1)",
             options := { rows := some 5, start := some 2 } } := by
  intro people w adults r
  have hm : people.id < w.models.length := by decide
  obtain ⟨-, -, -, -, hignored, -⟩ := fixed_defaults_kept hm rfl w.catalog [adults]
  obtain ⟨-, hquery, -⟩ := fixed_defaults_kept hm rfl w.catalog
    [adults, adults, { options := { start := some 2 } }, { selector := "a:1" }]
  refine ⟨hm, rfl, (hignored adults).2 ⟨({} : SearchQuery).merge adults, ?_⟩, ?_⟩
  · decide +kernel
  · rw [hquery]
    decide +kernel

end World
end SearchCriteria
