import SearchCriteria.Proofs.Scope.Repetition

/-! A default scope that is registered with itself. A value is compared as it would be alone, which
is in parentheses of its own, while the default scope stands for itself. So what a default scope
asks for is taken for a new part of it and asked for twice, unless it restricts nothing. -/
namespace SearchCriteria

namespace SearchQuery

theorem empty_merge_eq_self_iff {q : SearchQuery} :
    ({} : SearchQuery).merge q = q ↔ q.selector = "" := by
  rw [empty_merge_eq_iff, and_iff_left rfl]
  cases hb : Text.isBlank q.selector with
  | true => rw [if_pos rfl]
  | false =>
    rw [if_neg Bool.false_ne_true]
    constructor
    · intro h
      have hlength := congrArg String.length h
      simp only [String.length_append] at hlength
      have hopen : "(".length = 1 := rfl
      omega
    · intro h
      rw [h, Text.isBlank_empty] at hb
      cases hb

theorem mergeAll_merge {vs : List SearchQuery} {v : SearchQuery}
    (hvs : (mergeAll vs).isBlank = false) (hv : v.isBlank = false) :
    (mergeAll vs).merge v =
      { selector := (mergeAll vs).selector ++ " AND (" ++ v.selector ++ ")",
        options := (mergeAll vs).options.merge v.options } := by
  have hparts : solid (vs.map selector) ≠ [] := by
    rw [isBlank, selector_mergeAll, isBlank_joined] at hvs
    exact List.isEmpty_eq_false_iff.1 hvs
  have hjoint : joint (mergeAll vs).selector .and = " AND " := by
    rw [selector_mergeAll, joint_joined, if_neg hparts]
    rfl
  have hopened : " AND (" = " AND " ++ "(" := by decide
  rw [merge, pushRestriction_solid hv, hjoint, wrap, hopened]
  simp only [String.append_assoc]

theorem eval_mergeAll_again {vs : List SearchQuery} {es : List Expr} (hnone : es ≠ [])
    (hes : ∀ e ∈ es, e.WellFormed) (hparts : solid (vs.map selector) = es.map Expr.text) :
    ∃ once twice, Expr.parse? (mergeAll vs).selector = some once ∧
      Expr.parse? ((mergeAll vs).merge (mergeAll vs)).selector = some twice ∧
      ∀ holds, twice.eval holds = once.eval holds := by
  obtain ⟨once, honce, heval₁⟩ := parse?_mergeAll hnone hes hparts
  obtain ⟨hwell, htext⟩ := Expr.parse?_eq_some_iff.1 honce
  have hall : ∀ e ∈ es ++ [once], e.WellFormed := by
    intro e he
    rcases List.mem_append.1 he with he | he
    · exact hes e he
    · exact List.mem_singleton.1 he ▸ hwell
  obtain ⟨twice, htwice, heval₂⟩ :=
    parse?_mergeAll (by simp) hall (solid_concat hparts hwell htext)
  rw [mergeAll_concat] at htwice
  refine ⟨once, twice, honce, htwice, fun holds => ?_⟩
  rw [heval₂, List.all_append, ← heval₁]
  simp

end SearchQuery

namespace Registry

variable {r : Registry} {catalog : Catalog} {q : SearchQuery} {part : ScopeBuilder}

theorem eq_mergeAll_of_defaultQuery (h : r.defaultQuery catalog = some q) :
    q = SearchQuery.mergeAll (r.defaults.map fun part => part.resolve catalog []) := by
  rw [← getD_defaultQuery, h, Option.getD_some]

theorem defaults_ne_nil (h : r.defaultQuery catalog = some q) : r.defaults ≠ [] := by
  intro hnone
  rw [defaultQuery, hnone] at h
  cases h

/-- The default scope is taken for a part of it that is there already only if it is blank. -/
theorem ignores_current_iff (hq : r.defaultQuery catalog = some q)
    (hpart : part.resolve catalog [] = q) :
    (r.composeDefault catalog part).1 = false ↔ q.isBlank = true := by
  rw [ignores_iff, hq, hpart, Option.some_inj, eq_comm, SearchQuery.empty_merge_eq_self_iff,
    eq_mergeAll_of_defaultQuery hq, SearchQuery.isBlank_mergeAll_iff]

theorem composeDefault_current (hq : r.defaultQuery catalog = some q)
    (hpart : part.resolve catalog [] = q) (hb : q.isBlank = false) :
    (r.composeDefault catalog part).2 = r.pushDefault part ∧
      (r.pushDefault part).defaultQuery catalog =
        some { q with selector := q.selector ++ " AND (" ++ q.selector ++ ")" } := by
  have hadded : (r.composeDefault catalog part).1 = true := by
    rw [← Bool.not_eq_false, ignores_current_iff hq hpart, hb]
    exact Bool.false_ne_true
  refine ⟨composeDefault_accepted hadded, ?_⟩
  have hparts := eq_mergeAll_of_defaultQuery hq
  rw [defaultQuery_pushDefault, hq, Option.getD_some, hpart]
  rw [hparts] at hb ⊢
  rw [SearchQuery.mergeAll_merge hb hb, QueryOptions.merge_self]

end Registry

namespace World

variable {w : World} {m : Model} {q : SearchQuery}

theorem defaultScope_of_defaultQuery (hm : m.id < w.models.length)
    (hq : m.defaultQuery w.registries = some q) (part : ScopeBuilder) :
    let next := (w.registries m.id).composeDefault w.catalog part
    let after := w.defaultScope m part
    after.registries m.id = next.2 ∧
      m.defaultQuery after.registries = next.2.defaultQuery w.catalog ∧
      after.journal = w.journal ++ if next.1 then [] else [.defaultUnchanged m.collection] := by
  intro next after
  have hregistry := (defaultScope_spec hm part).1
  have hcatalog : after.catalog = w.catalog :=
    catalog_defaultScope hm (Registry.defaults_ne_nil hq) part
  have hquery : m.defaultQuery after.registries =
      (after.registries m.id).defaultQuery after.catalog := rfl
  refine ⟨hregistry, ?_, journal_defaultScope w m part⟩
  rw [hquery, hregistry, hcatalog]

end World

/-- A value that asks for what the default scope asks for is ignored exactly if that restricts
nothing. Otherwise it is added, the selector stands there twice, and the hits stay the same. -/
theorem current_default_again {r : Registry} {catalog : Catalog} {q : SearchQuery}
    {part : ScopeBuilder} (hq : r.defaultQuery catalog = some q)
    (hpart : part.resolve catalog [] = q) :
    let next := r.composeDefault catalog part
    (next.1 = false ↔ q.isBlank = true) ∧
    (q.isBlank = true → next.2 = r) ∧
    (q.isBlank = false →
      next.2.defaults = r.defaults ++ [part] ∧
      ∃ again, next.2.defaultQuery catalog = some again ∧ again.options = q.options ∧
        again.selector = q.selector ++ " AND (" ++ q.selector ++ ")" ∧
        ∀ es : List Expr, (∀ e ∈ es, e.WellFormed) →
          SearchQuery.solid (r.defaults.map fun part => (part.resolve catalog []).selector) =
            es.map Expr.text →
          ∃ e₁ e₂, Expr.parse? q.selector = some e₁ ∧ Expr.parse? again.selector = some e₂ ∧
            ∀ holds, e₂.eval holds = e₁.eval holds) ∧
    -- The same through a model, which reports what it ignores.
    ∀ (w : World) (m : Model), m.id < w.models.length → w.registries m.id = r →
      w.catalog = catalog →
      let after := w.defaultScope m part
      (m.withDefaultScope w.registries {}).query = q ∧
      after.registries m.id = next.2 ∧
      m.defaultQuery after.registries = next.2.defaultQuery catalog ∧
      after.journal = w.journal ++
        if q.isBlank then [.defaultUnchanged m.collection] else [] := by
  intro next
  have hignored : next.1 = false ↔ q.isBlank = true := Registry.ignores_current_iff hq hpart
  have hparts := Registry.eq_mergeAll_of_defaultQuery hq
  refine ⟨hignored, fun hb => Registry.composeDefault_ignored (hignored.2 hb), fun hb => ?_, ?_⟩
  · obtain ⟨hnext, hagain⟩ := Registry.composeDefault_current hq hpart hb
    have hmerge := r.defaultQuery_pushDefault catalog part
    rw [hagain, hq, hpart, Option.getD_some, Option.some_inj] at hmerge
    rw [← hnext] at hagain
    refine ⟨congrArg Registry.defaults hnext, _, hagain, rfl, rfl, fun es hes hsolid => ?_⟩
    have hnone : es ≠ [] := by
      rintro rfl
      rw [hparts, SearchQuery.isBlank, SearchQuery.selector_mergeAll, List.map_map] at hb
      rw [Function.comp_def, hsolid, List.map_nil, SearchQuery.joined_nil] at hb
      exact Bool.false_ne_true (hb.symm.trans Text.isBlank_empty)
    rw [hmerge, hparts]
    refine SearchQuery.eval_mergeAll_again hnone hes ?_
    rw [List.map_map]
    exact hsolid
  · rintro w m hm rfl rfl
    obtain ⟨hregistry, hquery, hjournal⟩ := World.defaultScope_of_defaultQuery hm hq part
    refine ⟨(Model.query_withDefaultScope_new m w.registries).trans hparts.symm, hregistry,
      hquery, hjournal.trans ?_⟩
    cases hb : q.isBlank with
    | true => rw [hignored.2 hb, if_neg Bool.false_ne_true, if_pos rfl]
    | false =>
      have hadded : next.1 = true := by rw [← Bool.not_eq_false, hignored, hb]; simp
      rw [hadded, if_pos rfl, if_neg Bool.false_ne_true]

/-- A default scope that only sets a page size is ignored when its own query is registered. One that
restricts something is added, and the query means the same. -/
theorem current_default_again_people :
    let people : Model := { id := 0, collection := "people" }
    let pages : Registry := { defaults := [.fixed { options := { rows := some 5 } }] }
    let adults : Registry := { defaults := [.fixed { selector := "age:[18 TO *]" }] }
    let w : World := { models := [{ model := people, registry := pages }] }
    let paged : SearchQuery := { options := { rows := some 5 } }
    let grown : SearchQuery := { selector := "(age:[18 TO *])" }
    pages.defaultQuery w.catalog = some paged ∧
    (w.defaultScope people (.fixed paged)).journal = [.defaultUnchanged "people"] ∧
    adults.defaultQuery w.catalog = some grown ∧
    (adults.composeDefault w.catalog (.fixed grown)).1 = true ∧
    ∃ again e₁ e₂,
      (adults.composeDefault w.catalog (.fixed grown)).2.defaultQuery w.catalog = some again ∧
      again.selector = "(age:[18 TO *]) AND ((age:[18 TO *]))" ∧
      Expr.parse? grown.selector = some e₁ ∧ Expr.parse? again.selector = some e₂ ∧
      ∀ holds, e₂.eval holds = e₁.eval holds := by
  intro people pages adults w paged grown
  have hpaged : pages.defaultQuery w.catalog = some paged := by decide +kernel
  have hgrown : adults.defaultQuery w.catalog = some grown := by decide +kernel
  have hfixed (q : SearchQuery) : (ScopeBuilder.fixed q).resolve w.catalog [] = q := rfl
  obtain ⟨-, -, -, hworld⟩ := current_default_again hpaged (hfixed paged)
  obtain ⟨-, -, -, hjournal⟩ := hworld w people (by decide) rfl rfl
  obtain ⟨hignored, -, hadded, -⟩ := current_default_again hgrown (hfixed grown)
  have hb : grown.isBlank = false := by decide
  obtain ⟨-, again, hagain, -, hselector, hmeaning⟩ := hadded hb
  have hpart : ∀ e ∈ [Expr.term (.range .inclusive "age" "18" "*")], e.WellFormed := by
    intro e he
    obtain rfl := List.mem_singleton.1 he
    exact ⟨by decide, by decide, by decide⟩
  obtain ⟨e₁, e₂, hexpr⟩ := hmeaning _ hpart (by decide +kernel)
  refine ⟨hpaged, hjournal.trans (by decide), hgrown, ?_, again, e₁, e₂, hagain,
    hselector.trans (by decide), hexpr⟩
  rw [← Bool.not_eq_false, hignored, hb]
  exact Bool.false_ne_true

/-- A value that is the query of a new criteria, and the default scope as it stands, is added. -/
theorem current_default_added :
    let people : Model := { id := 0, collection := "people" }
    let active : SearchQuery := ({} : SearchQuery).filter (.fields ⟨[("active", .bool true)]⟩)
    let current : SearchQuery := ({} : SearchQuery).filter (.raw "(active:true)")
    let once := ({ models := [{ model := people }] } : World).defaultScope people (.fixed active)
    let twice := once.defaultScope people (.fixed current)
    people.defaultQuery once.registries = some current ∧
      (people.withDefaultScope once.registries {}).query = current ∧
      ((once.registries 0).composeDefault once.catalog (.fixed current)).1 = true ∧
      (once.registries 0).defaults.length = 1 ∧ (twice.registries 0).defaults.length = 2 ∧
      twice.journal = once.journal ∧
      people.defaultQuery once.registries = some { selector := "((active:true))" } ∧
      people.defaultQuery twice.registries =
        some { selector := "((active:true)) AND (((active:true)))" } := by
  decide +kernel

end SearchCriteria
