import SearchCriteria.Proofs.Scope.DynamicDefaults

/-! A default scope registered twice in a row. The second time is ignored only if the first left
the scope at what the value alone would be, since a value is compared with all that is registered
and not with what was registered last. Then it is added once more, and asks for the same again. -/
namespace SearchCriteria

namespace QueryOptions

structure Covers (b a : QueryOptions) : Prop where
  sort : a.sort.isSome → b.sort.isSome
  rows : a.rows.isSome → b.rows.isSome
  start : a.start.isSome → b.start.isSome

theorem merge_eq_right_iff {a b : QueryOptions} : a.merge b = b ↔ b.Covers a := by
  have hentry {α : Type} (x y : Option α) : y.or x = y ↔ (x.isSome → y.isSome) := by
    cases x <;> cases y <;> simp
  obtain ⟨sort, rows, start⟩ := b
  rw [merge, mk.injEq, hentry, hentry, hentry]
  exact ⟨fun h => ⟨h.1, h.2.1, h.2.2⟩, fun h => ⟨h.sort, h.rows, h.start⟩⟩

theorem merge_merge_self (a b : QueryOptions) : (a.merge b).merge b = a.merge b := by
  have hentry {α : Type} (x y : Option α) : y.or (y.or x) = y.or x := by
    cases y <;> rfl
  rw [merge, mk.injEq]
  exact ⟨hentry a.sort b.sort, hentry a.rows b.rows, hentry a.start b.start⟩

end QueryOptions

namespace SearchQuery

/-- A value adds to a query just what it is alone if the query restricts nothing and sets no
option that the value leaves open. -/
theorem empty_merge_eq_merge_iff {q v : SearchQuery} :
    ({} : SearchQuery).merge v = q.merge v ↔ q.selector = "" ∧ v.options.Covers q.options := by
  rw [merge, merge, mk.injEq, QueryOptions.empty_merge, eq_comm (a := v.options),
    QueryOptions.merge_eq_right_iff]
  refine and_congr_left fun _ => ⟨fun h => ?_, fun h => by rw [h]⟩
  cases hb : Text.isBlank v.selector with
  | true =>
    rw [pushRestriction_blank hb, pushRestriction_blank hb] at h
    exact h.symm
  | false =>
    rw [pushRestriction_solid hb, pushRestriction_solid hb] at h
    have hlength := congrArg String.length h
    simp only [String.length_append] at hlength
    have hzero : q.selector.length = 0 := by
      have hjoint : (joint "" .and).length = 0 := by decide
      have hempty : "".length = 0 := rfl
      omega
    exact String.length_eq_zero_iff.1 hzero

theorem selector_merge_merge (q v : SearchQuery) :
    ((q.merge v).merge v).selector =
      if Text.isBlank v.selector then (q.merge v).selector
      else (q.merge v).selector ++ " AND (" ++ v.selector ++ ")" := by
  cases hb : Text.isBlank v.selector with
  | true => exact pushRestriction_blank hb _ .and
  | false =>
    have hadded (x : SearchQuery) : (x.merge v).selector =
        x.selector ++ joint x.selector .and ++ "(" ++ v.selector ++ ")" := by
      simp [merge, pushRestriction, hb]
    have hjoint : joint (q.merge v).selector .and = " AND " := by
      rw [hadded q]
      exact joint_closed _ .and
    have hopened : " AND (" = " AND " ++ "(" := by decide
    rw [hadded (q.merge v), hjoint, if_neg Bool.false_ne_true, hopened, ← String.append_assoc]

/-- The meaning of queries merged in order whose selectors are expressions. -/
theorem parse?_mergeAll {vs : List SearchQuery} {es : List Expr} (hnone : es ≠ [])
    (hes : ∀ e ∈ es, e.WellFormed) (h : solid (vs.map selector) = es.map Expr.text) :
    ∃ e, Expr.parse? (mergeAll vs).selector = some e ∧
      ∀ holds, e.eval holds = es.all (Expr.eval holds) := by
  have hselector : (mergeAll vs).selector = Expr.textOf (Expr.ofGroups .and es) := by
    rw [selector_mergeAll, h, Expr.textOf_ofGroups]
  have hwell := Expr.wellFormed_ofGroups (c := .and) hes
  have heval := fun holds => Expr.evalOf_ofGroups holds .and es
  cases he : Expr.ofGroups .and es with
  | none => cases es <;> simp_all [Expr.ofGroups, Expr.level?]
  | some e =>
    rw [he] at hselector hwell
    refine ⟨e, Expr.parse?_eq_some_iff.2 ⟨hwell e rfl, hselector.symm⟩, fun holds => ?_⟩
    have hvalue := heval holds
    rw [he, List.isEmpty_eq_false_iff.2 hnone] at hvalue
    exact hvalue

theorem solid_concat {vs : List SearchQuery} {v : SearchQuery} {es : List Expr} {e : Expr}
    (hparts : solid (vs.map selector) = es.map Expr.text) (he : e.WellFormed)
    (htext : e.text = v.selector) :
    solid ((vs ++ [v]).map selector) = (es ++ [e]).map Expr.text := by
  have hsolid : solid [v.selector] = [e.text] := by
    have hb := Expr.isBlank_text he
    rw [htext] at hb ⊢
    simp [solid, hb]
  rw [List.map_append, solid_append, hparts, List.map_append]
  exact congrArg (es.map Expr.text ++ ·) hsolid

theorem eval_merge_merge {vs : List SearchQuery} {v : SearchQuery} {es : List Expr} {e : Expr}
    (hes : ∀ x ∈ es, x.WellFormed) (he : e.WellFormed)
    (hparts : solid (vs.map selector) = es.map Expr.text) (htext : e.text = v.selector) :
    ∃ once twice, Expr.parse? ((mergeAll vs).merge v).selector = some once ∧
      Expr.parse? (((mergeAll vs).merge v).merge v).selector = some twice ∧
      ∀ holds, twice.eval holds = once.eval holds := by
  have honce := solid_concat hparts he htext
  have htwice := solid_concat honce he htext
  have hwell : ∀ x ∈ es ++ [e] ++ [e], x.WellFormed := by
    intro x hx
    simp only [List.mem_append, List.mem_singleton, or_assoc, or_self] at hx
    rcases hx with hx | rfl
    · exact hes x hx
    · exact he
  obtain ⟨e₁, hparse₁, heval₁⟩ := parse?_mergeAll (by simp)
    (fun x hx => hwell x (List.mem_append_left [e] hx)) honce
  obtain ⟨e₂, hparse₂, heval₂⟩ := parse?_mergeAll (by simp) hwell htwice
  rw [mergeAll_concat] at hparse₁
  rw [mergeAll_concat, mergeAll_concat] at hparse₂
  refine ⟨e₁, e₂, hparse₁, hparse₂, fun holds => ?_⟩
  rw [heval₁, heval₂]
  simp

end SearchQuery

namespace Registry

variable {r : Registry} {catalog : Catalog}

theorem defaultQuery_pushDefault (r : Registry) (catalog : Catalog) (part : ScopeBuilder) :
    (r.pushDefault part).defaultQuery catalog =
      some (((r.defaultQuery catalog).getD {}).merge (part.resolve catalog [])) := by
  rw [getD_defaultQuery, ← SearchQuery.mergeAll_concat, defaultQuery, ScopeBuilder.compose_eq,
    pushDefault, if_neg (by simp), List.map_append]
  rfl

theorem ignores_iff {part : ScopeBuilder} :
    (r.composeDefault catalog part).1 = false ↔
      r.defaultQuery catalog = some (({} : SearchQuery).merge (part.resolve catalog [])) := by
  have hsame := ScopeBuilder.isSameDefault_iff catalog r.defaults part
  rw [composeDefault]
  constructor
  · intro h
    obtain ⟨current, hcurrent, rfl⟩ := hsame.1 (by split at h <;> simp_all)
    exact hcurrent
  · intro h
    rw [if_pos (hsame.2 ⟨_, h, rfl⟩)]

/-- What is ignored directly after a part like it was added. -/
theorem ignores_pushDefault_iff {part : ScopeBuilder} :
    ((r.pushDefault part).composeDefault catalog part).1 = false ↔
      ((r.defaultQuery catalog).getD {}).isBlank = true ∧
        (part.resolve catalog []).options.Covers ((r.defaultQuery catalog).getD {}).options := by
  rw [ignores_iff, defaultQuery_pushDefault, Option.some_inj, eq_comm,
    SearchQuery.empty_merge_eq_merge_iff, getD_defaultQuery, SearchQuery.isBlank_mergeAll_iff]

theorem ignores_twice_iff (r : Registry) (catalog : Catalog) (part : ScopeBuilder) :
    ((r.composeDefault catalog part).2.composeDefault catalog part).1 = false ↔
      (r.composeDefault catalog part).1 = false ∨
        (((r.defaultQuery catalog).getD {}).isBlank = true ∧
          (part.resolve catalog []).options.Covers ((r.defaultQuery catalog).getD {}).options) := by
  cases hfirst : (r.composeDefault catalog part).1 with
  | false =>
    rw [composeDefault_ignored hfirst, hfirst]
    simp
  | true =>
    rw [composeDefault_accepted hfirst, ignores_pushDefault_iff]
    simp

theorem composeDefault_twice (r : Registry) {catalog : Catalog} {part : ScopeBuilder}
    (h : ((r.composeDefault catalog part).2.composeDefault catalog part).1 = true) :
    let once := (r.composeDefault catalog part).2
    let twice := (once.composeDefault catalog part).2
    let before := (r.defaultQuery catalog).getD {}
    let v := part.resolve catalog []
    twice.defaults = r.defaults ++ [part, part] ∧
      once.defaultQuery catalog = some (before.merge v) ∧
      twice.defaultQuery catalog = some ((before.merge v).merge v) := by
  intro once twice before v
  have hfirst : (r.composeDefault catalog part).1 = true := by
    cases hfirst : (r.composeDefault catalog part).1 with
    | false => exact absurd ((r.ignores_twice_iff catalog part).2 (.inl hfirst)) (by simp [h])
    | true => rfl
  have honce : once = r.pushDefault part := composeDefault_accepted hfirst
  have htwice : twice = once.pushDefault part := composeDefault_accepted h
  have hquery : once.defaultQuery catalog = some (before.merge v) := by
    rw [honce, defaultQuery_pushDefault]
  refine ⟨?_, hquery, ?_⟩
  · rw [htwice, honce]
    simp [pushDefault]
  · rw [htwice, defaultQuery_pushDefault, hquery, Option.getD_some]

/-- Whether anything is in the default scope is all that the catalog says about it. -/
theorem facts_composeDefault (hsome : r.defaults ≠ []) (part : ScopeBuilder) :
    (r.composeDefault catalog part).2.facts = r.facts := by
  cases hchanged : (r.composeDefault catalog part).1 with
  | false => rw [composeDefault_ignored hchanged]
  | true =>
    have hmore : (r.pushDefault part).hasDefaultScope = true := by
      simp [hasDefaultScope, pushDefault]
    have hthere : r.hasDefaultScope = true := by simp [hasDefaultScope, hsome]
    rw [composeDefault_accepted hchanged, facts, facts, hmore, hthere]
    rfl

end Registry

namespace World

variable {w : World} {m : Model}

theorem catalog_defaultScope (hm : m.id < w.models.length)
    (hsome : (w.registries m.id).defaults ≠ []) (part : ScopeBuilder) :
    (w.defaultScope m part).catalog = w.catalog := by
  funext n
  change ((w.defaultScope m part).registries n).facts = (w.registries n).facts
  by_cases hn : m.id = n
  · subst hn
    rw [(defaultScope_spec hm part).1, Registry.facts_composeDefault hsome]
  · have hdef : w.defaultScope m part = w.register m (.default part) := rfl
    rw [hdef, register_default]
    split
    · rw [registries_update_of_ne hn]
    · rfl

/-- A fixed value registered twice with a model is composed twice by its registry, as if the
catalog were the same all along. -/
theorem defaultScope_twice (hm : m.id < w.models.length) (v : SearchQuery) :
    let once := w.defaultScope m (.fixed v)
    let twice := once.defaultScope m (.fixed v)
    let first := (w.registries m.id).composeDefault w.catalog (.fixed v)
    let second := first.2.composeDefault w.catalog (.fixed v)
    once.registries m.id = first.2 ∧ twice.registries m.id = second.2 ∧
      m.defaultQuery once.registries = first.2.defaultQuery w.catalog ∧
      m.defaultQuery twice.registries = second.2.defaultQuery w.catalog ∧
      twice.journal = once.journal ++
        if second.1 then [] else [.defaultUnchanged m.collection] := by
  intro once twice first second
  obtain ⟨honce, hlength⟩ := defaultScope_spec hm (.fixed v)
  obtain ⟨htwice, -⟩ := defaultScope_spec hlength (.fixed v)
  have hjournal := journal_defaultScope once m (.fixed v)
  have hquery (x : World) : m.defaultQuery x.registries =
      (x.registries m.id).defaultQuery x.catalog := rfl
  by_cases hnone : (w.registries m.id).defaults = []
  · -- Only the value itself is there, and it is the same in every catalog.
    have hstart := Registry.Composed.start hnone
    have hfirst := hstart.step w.catalog v
    have hsecond := hfirst.step w.catalog v
    rw [honce, hfirst.composeDefault_catalog once.catalog w.catalog v] at htwice hjournal
    refine ⟨honce, htwice, ?_, ?_, hjournal⟩
    · rw [hquery, honce, hfirst.defaultQuery_eq, hfirst.defaultQuery_eq]
    · rw [hquery, htwice, hsecond.defaultQuery_eq, hsecond.defaultQuery_eq]
  · have hcatalog : once.catalog = w.catalog := catalog_defaultScope hm hnone (.fixed v)
    have hsome : (once.registries m.id).defaults ≠ [] := by
      have hgrow := Registry.defaults_register (w.registries m.id) w.catalog (.default (.fixed v))
      rw [honce]
      exact hgrow.ne_nil hnone
    have hcatalog' : twice.catalog = w.catalog :=
      (catalog_defaultScope hlength hsome (.fixed v)).trans hcatalog
    rw [honce, hcatalog] at htwice hjournal
    refine ⟨honce, htwice, ?_, ?_, hjournal⟩
    · rw [hquery, honce, hcatalog]
    · rw [hquery, htwice, hcatalog']

end World

/-- A second registration of a fixed value is ignored exactly if the first was, or if what was there
before restricts nothing and sets no option that the value leaves open; else it is added again. -/
theorem fixed_default_twice (r : Registry) (catalog : Catalog) (v : SearchQuery) :
    let before := (r.defaultQuery catalog).getD {}
    let first := r.composeDefault catalog (.fixed v)
    let second := first.2.composeDefault catalog (.fixed v)
    (second.1 = false ↔
      first.1 = false ∨ (before.isBlank = true ∧ v.options.Covers before.options)) ∧
    (second.1 = false → second.2 = first.2) ∧
    (second.1 = true →
      second.2.defaults = r.defaults ++ [.fixed v, .fixed v] ∧
      ∃ once twice, first.2.defaultQuery catalog = some once ∧
        second.2.defaultQuery catalog = some twice ∧
        twice.options = once.options ∧
        twice.selector = (if Text.isBlank v.selector then once.selector
          else once.selector ++ " AND (" ++ v.selector ++ ")") ∧
        ∀ (es : List Expr) (e : Expr), (∀ x ∈ es, x.WellFormed) → e.WellFormed →
          SearchQuery.solid (r.defaults.map fun part => (part.resolve catalog []).selector) =
            es.map Expr.text →
          e.text = v.selector →
          ∃ e₁ e₂, Expr.parse? once.selector = some e₁ ∧ Expr.parse? twice.selector = some e₂ ∧
            ∀ holds, e₂.eval holds = e₁.eval holds) ∧
    -- The same through a model, which reports what it ignores.
    ∀ (w : World) (m : Model), m.id < w.models.length → w.registries m.id = r →
      w.catalog = catalog →
      let once := w.defaultScope m (.fixed v)
      let twice := once.defaultScope m (.fixed v)
      once.registries m.id = first.2 ∧ twice.registries m.id = second.2 ∧
        m.defaultQuery once.registries = first.2.defaultQuery catalog ∧
        m.defaultQuery twice.registries = second.2.defaultQuery catalog ∧
        twice.journal = once.journal ++
          if second.1 then [] else [.defaultUnchanged m.collection] := by
  intro before first second
  refine ⟨r.ignores_twice_iff catalog _, Registry.composeDefault_ignored, fun h => ?_, ?_⟩
  · obtain ⟨hdefaults, honce, htwice⟩ := r.composeDefault_twice h
    refine ⟨hdefaults, _, _, honce, htwice, ?_, ?_, fun es e hes he hparts htext => ?_⟩
    · exact QueryOptions.merge_merge_self before.options v.options
    · exact SearchQuery.selector_merge_merge before v
    · rw [r.getD_defaultQuery catalog]
      refine SearchQuery.eval_merge_merge hes he ?_ htext
      rw [List.map_map]
      exact hparts
  · rintro w m hm rfl rfl
    exact World.defaultScope_twice hm v

/-- A value that sets another page size is ignored the second time, since the page size before it
is gone. After a restriction it is added twice, and the query means the same. -/
theorem fixed_default_twice_adults :
    let people : Model := { id := 0, collection := "people" }
    let adults : SearchQuery := { selector := "age:[18 TO *]", options := { rows := some 9 } }
    let pages : Registry := { defaults := [.fixed { options := { rows := some 5 } }] }
    let tenant : Registry := { defaults := [.fixed { selector := "tenant:7" }] }
    let w : World := { models := [{ model := people, registry := pages }] }
    let once := w.defaultScope people (.fixed adults)
    let twice := once.defaultScope people (.fixed adults)
    people.id < w.models.length ∧
    twice.journal = once.journal ++ [.defaultUnchanged "people"] ∧
    people.defaultQuery twice.registries =
      some { selector := "(age:[18 TO *])", options := { rows := some 9 } } ∧
    (∃ again, ((tenant.composeDefault w.catalog (.fixed adults)).2.composeDefault w.catalog
        (.fixed adults)).2.defaultQuery w.catalog = some again ∧
      again.selector = "(tenant:7) AND (age:[18 TO *]) AND (age:[18 TO *])" ∧
      ∃ e₁ e₂, Expr.parse? "(tenant:7) AND (age:[18 TO *])" = some e₁ ∧
        Expr.parse? again.selector = some e₂ ∧ ∀ holds, e₂.eval holds = e₁.eval holds) := by
  intro people adults pages tenant w once twice
  have hm : people.id < w.models.length := by decide
  obtain ⟨hpages, -, -, hworld⟩ := fixed_default_twice pages w.catalog adults
  obtain ⟨-, -, -, hquery, hjournal⟩ := hworld w people hm rfl rfl
  have hignored := hpages.2 (.inr ⟨by decide, by decide, by decide, by decide⟩)
  rw [hignored] at hjournal
  obtain ⟨-, -, htenant, -⟩ := fixed_default_twice tenant w.catalog adults
  obtain ⟨-, q₁, q₂, hq₁, hq₂, -, hselector, hmeaning⟩ := htenant (by decide +kernel)
  have hfirst : q₁.selector = "(tenant:7) AND (age:[18 TO *])" := by
    have hcomputed : ((tenant.composeDefault w.catalog (.fixed adults)).2.defaultQuery
        w.catalog).map (·.selector) = some "(tenant:7) AND (age:[18 TO *])" := by decide +kernel
    rw [hq₁] at hcomputed
    exact Option.some.inj hcomputed
  have hpart : ∀ x ∈ [Expr.term (.equal "tenant" "7")], x.WellFormed := by
    intro x hx
    obtain rfl := List.mem_singleton.1 hx
    exact ⟨by decide, by decide⟩
  have hvalue : (Expr.term (.range .inclusive "age" "18" "*")).WellFormed :=
    ⟨by decide, by decide, by decide⟩
  have hexpr := hmeaning _ _ hpart hvalue (by decide) (by decide)
  rw [hfirst] at hselector hexpr
  refine ⟨hm, hjournal, ?_, q₂, hq₂, hselector.trans (by decide +kernel), hexpr⟩
  rw [hquery]
  decide +kernel

/-- A value beside another one is added again. -/
theorem default_beside_another_twice :
    let a : SearchQuery := ({} : SearchQuery).filter (.fields ⟨[("a", .int 1)]⟩)
    let b : SearchQuery := ({} : SearchQuery).filter (.fields ⟨[("b", .int 2)]⟩)
    let catalog : Catalog := fun _ => {}
    let r : Registry := ({} : Registry).composeAll catalog [a]
    let first := r.composeDefault catalog (.fixed b)
    let second := first.2.composeDefault catalog (.fixed b)
    first.1 = true ∧ second.1 = true ∧
      first.2.defaults.length = 2 ∧ second.2.defaults.length = 3 ∧
      first.2.defaultQuery catalog = some { selector := "((a:1)) AND ((b:2))" } ∧
      second.2.defaultQuery catalog =
        some { selector := "((a:1)) AND ((b:2)) AND ((b:2))" } := by
  decide +kernel

end SearchCriteria
