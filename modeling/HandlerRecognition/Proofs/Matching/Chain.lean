import HandlerRecognition.Proofs.Catalog.Lookup
import HandlerRecognition.Proofs.Matching.Simulation
import Mathlib.Data.Fintype.Card

/-!
# Chains of delegations

A verifier that delegates says which template it delegates to, so from a
template on the delegations form a single chain. It depends on the catalog and
not on any body. `Catalog.EndsAfter` counts the delegations up to a template that
does not delegate. The count is at most three, since only three names are ever
delegated to.

A template is accepted only if its chain ends within the budget
(`Environment.endsAfter_of_accepts`), and along a chain that does, verdicts do not
depend on what is left of the budget (`Environment.accepts_eq_of_endsAfter`).
This is why a larger budget and a larger catalog keep every acceptance, although
a verifier that demands exactly one occurrence is not monotone: a count is
either zero because the chain does not end in time, or it is final.
-/

namespace HandlerRecognition

instance : Fintype Delegation where
  elems := {.endsInterpreter, .readsTopOnce, .takesTopOnce}
  complete d := by cases d <;> decide

namespace Catalog

variable {c c' : Catalog} {t : Template} {m n : Nat}

/-- The delegations that start at a template end, after a number of them, at a
template that does not delegate. -/
inductive EndsAfter (c : Catalog) : Nat → Template → Prop
  | here {t : Template}
      (h : ∀ d : Delegation, t.verifier? ≠ some (.delegation d)) :
      EndsAfter c 0 t
  | through {t u : Template} {n : Nat} {d : Delegation}
      (ht : t.verifier? = some (.delegation d))
      (hu : c.find? d.templateName = some u) (h : EndsAfter c n u) :
      EndsAfter c (n + 1) t

/-- Delegations that find a template find the same one in the other catalog. -/
def ExtendedBy (c c' : Catalog) : Prop :=
  ∀ ⦃d : Delegation⦄ ⦃u : Template⦄, c.find? d.templateName = some u →
    c'.find? d.templateName = some u

theorem ExtendedBy.refl (c : Catalog) : c.ExtendedBy c :=
  fun _ _ h => h

theorem EndsAfter.mono (hc : c.ExtendedBy c') (h : c.EndsAfter n t) :
    c'.EndsAfter n t := by
  induction h with
  | here hnone => exact .here hnone
  | through ht hu _ ih => exact .through ht (hc hu) ih

theorem EndsAfter.unique (h : c.EndsAfter m t) (h' : c.EndsAfter n t) :
    m = n := by
  induction h generalizing n with
  | here hnone =>
      cases h' with
      | here _ => rfl
      | through ht _ _ => exact absurd ht (hnone _)
  | through ht hu _ ih =>
      cases h' with
      | here hnone => exact absurd ht (hnone _)
      | through ht' hu' h' =>
          obtain rfl :=
            Verifier.delegation.inj (Option.some.inj (ht.symm.trans ht'))
          obtain rfl := Option.some.inj (hu.symm.trans hu')
          rw [ih h']

/-- Every smaller number of delegations is left at some template that is
delegated to. -/
theorem EndsAfter.exists_delegation (h : c.EndsAfter n t) {k : Nat}
    (hk : k < n) :
    ∃ (d : Delegation) (u : Template), c.find? d.templateName = some u ∧
      c.EndsAfter k u := by
  induction h with
  | here _ => exact absurd hk (Nat.not_lt_zero k)
  | @through t u n d _ hu hends ih =>
      rcases Nat.lt_succ_iff_lt_or_eq.mp hk with hlt | rfl
      · exact ih hlt
      · exact ⟨d, u, hu, hends⟩

/-- A chain that ends passes through no delegation twice. -/
theorem EndsAfter.le_three (h : c.EndsAfter n t) : n ≤ 3 := by
  choose delegation u hfind hends using
    fun k : Fin n => h.exists_delegation k.isLt
  have hinjective : Function.Injective delegation := by
    intro k k' heq
    have hu : u k = u k' := by
      refine Option.some.inj ((hfind k).symm.trans ?_)
      rw [heq, hfind k']
    have hk := hends k
    rw [hu] at hk
    exact Fin.ext (hk.unique (hends k'))
  have hcard := Fintype.card_le_of_injective delegation hinjective
  rwa [Fintype.card_fin] at hcard

/-- Where the built-in templates are registered, a delegation leads to one of
them, and none of those that it may lead to delegates. -/
theorem exists_inspection_of_builtin (hc : Builtin.templates ⊆ c.templates)
    (d : Delegation) :
    ∃ (u : Template) (i : Inspection), c.find? d.templateName = some u ∧
      u.verifier? = some (.inspection i) := by
  cases d with
  | endsInterpreter =>
      exact ⟨Builtin.enableReturn, .setsFlag,
        find?_eq_some_iff.mpr ⟨hc (by decide), rfl⟩, rfl⟩
  | readsTopOnce =>
      exact ⟨Builtin.peekStack, .readsTop,
        find?_eq_some_iff.mpr ⟨hc (by decide), rfl⟩, rfl⟩
  | takesTopOnce =>
      exact ⟨Builtin.popStack, .takesTop,
        find?_eq_some_iff.mpr ⟨hc (by decide), rfl⟩, rfl⟩

theorem EndsAfter.le_one (hc : Builtin.templates ⊆ c.templates)
    (h : c.EndsAfter n t) : n ≤ 1 := by
  cases h with
  | here _ => exact Nat.zero_le 1
  | @through t u n d ht hu h =>
      obtain ⟨u', i, hu', hi⟩ := exists_inspection_of_builtin hc d
      obtain rfl : u = u' := Option.some.inj (hu.symm.trans hu')
      have hend : c.EndsAfter 0 u := .here fun d => by simp [hi]
      rw [h.unique hend]

end Catalog

namespace Site

theorem find?_of_helper? {s : Site} {offset : Nat} {name : String}
    {u : Template} {body : Body} (h : s.helper? offset name = some (u, body)) :
    s.env.catalog.find? name = some u := by
  rw [helper?, Option.bind_eq_some_iff] at h
  obtain ⟨u', hu', h⟩ := h
  obtain ⟨body', -, heq⟩ := Option.map_eq_some_iff.mp h
  rw [hu', (Prod.mk.inj heq).1]

end Site

namespace Delegation

variable {d : Delegation} {s s' : Site} {u : Template}

/-- A delegation that holds has a helper in which its template is accepted
somewhere, one level deeper. -/
theorem exists_accepts_of_holdsBy
    (h : d.holdsBy s s.env.deeper? = true) :
    ∃ u body deeper p, s.helper? d.offset d.templateName = some (u, body) ∧
      s.env.descend? = some deeper ∧ deeper.accepts u body p = true := by
  unfold holdsBy Site.delegatesToBy Site.occurrencesBy Environment.deeper? at h
  cases hhelper : s.helper? d.offset d.templateName with
  | none => cases hdemand : d.demand <;> simp [hhelper, hdemand] at h
  | some a =>
      obtain ⟨u, body⟩ := a
      cases hdeeper : s.env.descend? with
      | none => cases hdemand : d.demand <;> simp [hhelper, hdeeper, hdemand] at h
      | some deeper =>
          refine ⟨u, body, deeper, ?_⟩
          cases hdemand : d.demand with
          | atStart =>
              simp only [hhelper, hdeeper, hdemand, Option.map_some] at h
              exact ⟨0, rfl, rfl, h⟩
          | once =>
              simp only [hhelper, hdeeper, hdemand, Option.map_some,
                beq_iff_eq, Option.some.injEq] at h
              have hpos : 0 < (List.range body.length).countP
                  (deeper.accepts u body) := by omega
              obtain ⟨p, -, hp⟩ := List.countP_pos_iff.mp hpos
              exact ⟨p, rfl, rfl, hp⟩

/-- A delegation sees the helper, and in it the template that it looks up. -/
theorem holdsBy_congr (hu : s.env.catalog.find? d.templateName = some u)
    (hhelper : s.helper? d.offset d.templateName =
      s'.helper? d.offset d.templateName)
    {accepts accepts' : Matcher} (h : accepts u = accepts' u) :
    d.holdsBy s (some accepts) = d.holdsBy s' (some accepts') := by
  unfold holdsBy Site.delegatesToBy Site.occurrencesBy
  rw [← hhelper]
  cases hs : s.helper? d.offset d.templateName with
  | none => rfl
  | some a =>
      obtain ⟨u', body⟩ := a
      obtain rfl : u = u' :=
        Option.some.inj (hu.symm.trans (Site.find?_of_helper? hs))
      simp only [h]

end Delegation

namespace Environment

variable {env env' deeper deeper' : Environment} {t : Template} {body : Body}
  {start n : Nat}

theorem catalog_of_descend? (h : env.descend? = some deeper) :
    deeper.catalog = env.catalog := by
  obtain ⟨-, rfl⟩ := descend?_eq_some_iff.mp h
  rfl

theorem store_of_descend? (h : env.descend? = some deeper) :
    deeper.store = env.store := by
  obtain ⟨-, rfl⟩ := descend?_eq_some_iff.mp h
  rfl

theorem exists_descend? (h : 0 < env.budget) :
    ∃ deeper, env.descend? = some deeper := by
  rw [← Option.ne_none_iff_exists', Ne, descend?_eq_none_iff_budget]
  omega

/-- Only delegations look up templates. -/
theorem verifies_eq_of_store_eq (hstore : env.store = env'.store)
    (ht : ∀ d : Delegation, t.verifier? ≠ some (.delegation d)) :
    env.verifies t = env'.verifies t := by
  funext body start
  exact verifies_eq_of_holds_eq ht fun i =>
    i.holds_eq_of_store_eq hstore body start

theorem verifies_of_delegation {d : Delegation}
    (ht : t.verifier? = some (.delegation d)) :
    env.verifies t body start = d.holdsBy ⟨env, body, start⟩ env.deeper? := by
  rw [verifies, Template.passesBy, ht]
  rfl

/-- A template is accepted only if its chain of delegations ends within the
budget. -/
theorem endsAfter_of_accepts (h : env.accepts t body start = true) :
    ∃ n ≤ env.budget, env.catalog.EndsAfter n t := by
  induction hbudget : env.budget using Nat.strongRecOn
    generalizing env t body start with
  | ind budget ih =>
      subst hbudget
      by_cases hd : ∃ d, t.verifier? = some (.delegation d)
      · obtain ⟨d, hd⟩ := hd
        rw [accepts_eq, Bool.and_eq_true, verifies_of_delegation hd] at h
        obtain ⟨u, helper, deeper, p, hhelper, hdeeper, haccepts⟩ :=
          Delegation.exists_accepts_of_holdsBy h.2
        have hlt : env.budget = deeper.budget + 1 :=
          budget_of_descend? hdeeper
        obtain ⟨n, hn, hends⟩ := ih deeper.budget (by omega) haccepts rfl
        rw [catalog_of_descend? hdeeper] at hends
        exact ⟨n + 1, by omega,
          .through hd (Site.find?_of_helper? hhelper) hends⟩
      · exact ⟨0, Nat.zero_le _, .here fun d h => hd ⟨d, h⟩⟩

/-- Along a chain that ends within both budgets, verdicts agree. -/
theorem accepts_eq_of_endsAfter (hstore : env.store = env'.store)
    (hcatalog : env.catalog.ExtendedBy env'.catalog)
    (hends : env.catalog.EndsAfter n t) (hn : n ≤ env.budget)
    (hn' : n ≤ env'.budget) : env.accepts t = env'.accepts t := by
  generalize hc : env.catalog = c at hends
  induction hends generalizing env env' with
  | here hnone =>
      funext body start
      rw [accepts_eq, accepts_eq, verifies_eq_of_store_eq hstore hnone]
  | @through t u n d ht hu _ ih =>
      subst hc
      obtain ⟨deeper, hd⟩ := env.exists_descend? (by omega)
      obtain ⟨deeper', hd'⟩ := env'.exists_descend? (by omega)
      have hbudget := budget_of_descend? hd
      have hbudget' := budget_of_descend? hd'
      have hdeeper : deeper.accepts u = deeper'.accepts u := by
        refine ih ?_ ?_ (by omega) (by omega) (catalog_of_descend? hd)
        · rw [store_of_descend? hd, store_of_descend? hd', hstore]
        · rw [catalog_of_descend? hd, catalog_of_descend? hd']
          exact hcatalog
      funext body start
      have hhelper : (Site.mk env body start).helper? d.offset d.templateName =
          (Site.mk env' body start).helper? d.offset d.templateName := by
        simp only [Site.helper?, Site.methodToken?, Site.instruction?, hu,
          hcatalog hu, hstore]
      rw [accepts_eq, accepts_eq, verifies_of_delegation ht,
        verifies_of_delegation ht, Environment.deeper?, Environment.deeper?, hd,
        hd', Option.map_some, Option.map_some,
        Delegation.holdsBy_congr hu hhelper hdeeper]

/-- The same store, a catalog in which delegations find the same templates, if
not more, and a budget that is no smaller. -/
structure ExtendedBy (env env' : Environment) : Prop where
  store : env.store = env'.store
  catalog : env.catalog.ExtendedBy env'.catalog
  budget : env.budget ≤ env'.budget

/-- A larger budget and more templates to delegate to keep every acceptance. -/
theorem ExtendedBy.accepts (h : env.ExtendedBy env')
    (haccepts : env.accepts t body start = true) :
    env'.accepts t body start = true := by
  obtain ⟨n, hn, hends⟩ := endsAfter_of_accepts haccepts
  rw [← accepts_eq_of_endsAfter h.store h.catalog hends hn (hn.trans h.budget)]
  exact haccepts

/-- Verdicts agree where delegations find the same templates and the same chains
end within the budget. -/
theorem accepts_eq_of_extendedBy (hstore : env.store = env'.store)
    (hcatalog : env.catalog.ExtendedBy env'.catalog)
    (hcatalog' : env'.catalog.ExtendedBy env.catalog)
    (hbudget : ∀ {n : Nat} {t : Template}, env.catalog.EndsAfter n t →
      (n ≤ env.budget ↔ n ≤ env'.budget)) :
    env.accepts = env'.accepts := by
  have hends {n : Nat} {t : Template} (h : env.catalog.EndsAfter n t)
      (hn : n ≤ env.budget) : env.accepts t = env'.accepts t :=
    accepts_eq_of_endsAfter hstore hcatalog h hn ((hbudget h).mp hn)
  funext t body start
  rw [Bool.eq_iff_iff]
  constructor
  · intro h
    obtain ⟨n, hn, ht⟩ := endsAfter_of_accepts h
    rw [← hends ht hn]
    exact h
  · intro h
    obtain ⟨n, hn, ht⟩ := endsAfter_of_accepts h
    have ht' := ht.mono hcatalog'
    rw [hends ht' ((hbudget ht').mpr hn)]
    exact h

end Environment

end HandlerRecognition
