import HandlerRecognition.Matching.Refusal

/-!
# Simulations between sites

Two sites may differ in everything that verdicts do not depend on. A
`Site.Simulation` is a relation between sites that says so: related sites have
the same budget, the templates in question fit both or neither, inspections
decide alike, and the helpers of a delegation are related again one level
deeper. No verdict and no count of refusals tells related sites apart.

The helpers of a site may have the site itself among them, so there is no
induction on bodies. What decreases is the budget.
-/

namespace HandlerRecognition

theorem Demand.positions_congr (d : Demand) {body body' : Body}
    (h : body.length = body'.length) : d.positions body = d.positions body' := by
  cases d with
  | atStart => rfl
  | once => simp only [Demand.positions, h]

theorem Tally.total_congr {refusals refusals' : Tally} {t : Template}
    {body body' : Body} (hfits : t.fitsAt body = t.fitsAt body')
    (h : refusals t body = refusals' t body') (positions : List Nat) :
    refusals.total t body positions = refusals'.total t body' positions := by
  simp only [Tally.total, hfits, h]

/-- An attempt sees a body through its shape, its verifiers and its length. -/
theorem Matcher.attempt_congr {verifies verifies' : Matcher} {t : Template}
    {body body' : Body} (hlength : body.length = body'.length)
    (hfits : t.fitsAt body = t.fitsAt body')
    (h : verifies t body = verifies' t body') :
    verifies.attempt t body = verifies'.attempt t body' := by
  have hwalk (isShaped : Bool) (positions : List Nat) :
      verifies.attemptAt t body isShaped positions =
        verifies'.attemptAt t body' isShaped positions := by
    induction positions generalizing isShaped with
    | nil => rfl
    | cons p ps ih => simp only [Matcher.attemptAt, hfits, h, ih]
  simp only [Matcher.attempt, hlength, hwalk]

namespace Environment

theorem descend?_eq_none_iff_budget {env : Environment} :
    env.descend? = none ↔ env.budget = 0 := by
  rw [descend?_eq_none_iff, budget]
  omega

theorem descend?_of_budget_eq {env env' : Environment}
    (h : env.budget = env'.budget) :
    (env.descend? = none ∧ env'.descend? = none) ∨
      ∃ deeper deeper', env.descend? = some deeper ∧
        env'.descend? = some deeper' ∧ deeper.budget < env.budget := by
  cases hd : env.descend? with
  | none =>
      refine Or.inl ⟨rfl, ?_⟩
      rw [descend?_eq_none_iff_budget] at hd ⊢
      omega
  | some deeper =>
      have hbudget := budget_of_descend? hd
      cases hd' : env'.descend? with
      | none =>
          rw [descend?_eq_none_iff_budget] at hd'
          omega
      | some deeper' => exact Or.inr ⟨deeper, deeper', rfl, rfl, by omega⟩

theorem refusals_eq (env : Environment) (t : Template) (body : Body)
    (start : Nat) :
    env.refusals t body start =
      t.refusalsBy ⟨env, body, start⟩ (env.descend?.map refusals) := by
  have h : env.refusals = env.refusalsBy (env.descend?.map refusals) := by
    rw [refusals]
    cases hd : env.descend? with
    | none =>
        rw [descend?_eq_none_iff_budget.mp hd]
        rfl
    | some deeper =>
        rw [budget_of_descend? hd]
        simp only [refusalsWithin, hd, Option.map_some]
        rfl
  rw [h]
  rfl

section Inspections

variable {env env' : Environment} {t : Template} {body body' : Body}
  {start : Nat}

/-- A verifier that does not delegate is decided by inspections alone. -/
theorem verifies_of_holds (ht : ∀ d, t.verifier? ≠ some (.delegation d))
    (h : ∀ i : Inspection, i.holds ⟨env, body, start⟩ = true →
      i.holds ⟨env', body', start⟩ = true)
    (hverifies : env.verifies t body start = true) :
    env'.verifies t body' start = true := by
  rw [verifies, Template.passesBy] at hverifies ⊢
  cases hverifier : t.verifier? with
  | none => rfl
  | some v =>
      rw [hverifier] at hverifies
      cases v with
      | constant answer => exact hverifies
      | inspection i => exact h i hverifies
      | delegation d => exact absurd hverifier (ht d)

theorem verifies_eq_of_holds_eq (ht : ∀ d, t.verifier? ≠ some (.delegation d))
    (h : ∀ i : Inspection, i.holds ⟨env, body, start⟩ =
      i.holds ⟨env', body', start⟩) :
    env.verifies t body start = env'.verifies t body' start := by
  rw [Bool.eq_iff_iff]
  exact ⟨verifies_of_holds ht fun i hi => (h i).symm.trans hi,
    verifies_of_holds ht fun i hi => (h i).trans hi⟩

end Inspections

end Environment

namespace Site

/-- A relation between sites that verdicts of the templates in `T` respect. -/
structure Simulation (T : Template → Prop) (R : Site → Site → Prop) :
    Prop where
  budget {s s' : Site} (h : R s s') : s.env.budget = s'.env.budget
  fitsAt {s s' : Site} {t : Template} (h : R s s') (ht : T t) :
    t.fitsAt s.body s.start = t.fitsAt s'.body s'.start
  holds {s s' : Site} (h : R s s') (i : Inspection) : i.holds s = i.holds s'
  helper? {s s' : Site} (h : R s s') (offset : Nat) (name : String) :
    Option.Rel
      (fun a b => a.1 = b.1 ∧ T a.1 ∧ a.2.length = b.2.length ∧
        ∀ deeper deeper' start, s.env.descend? = some deeper →
          s'.env.descend? = some deeper' →
          R ⟨deeper, a.2, start⟩ ⟨deeper', b.2, start⟩)
      (s.helper? offset name) (s'.helper? offset name)

namespace Simulation

variable {T : Template → Prop} {R : Site → Site → Prop}

/-- Related sites both have a helper or neither has one, and both can descend
into it or neither can. Below, the helpers are related at every position. -/
theorem helper_cases (hR : Simulation T R) {s s' : Site} (h : R s s')
    (offset : Nat) (name : String) :
    (s.helper? offset name = none ∧ s'.helper? offset name = none) ∨
      ∃ t body body', s.helper? offset name = some (t, body) ∧
        s'.helper? offset name = some (t, body') ∧ T t ∧
        body.length = body'.length ∧
        ((s.env.descend? = none ∧ s'.env.descend? = none) ∨
          ∃ deeper deeper', s.env.descend? = some deeper ∧
            s'.env.descend? = some deeper' ∧
            deeper.budget < s.env.budget ∧
            ∀ start, R ⟨deeper, body, start⟩ ⟨deeper', body', start⟩) := by
  have hhelper := hR.helper? h offset name
  generalize s.helper? offset name = a at hhelper ⊢
  generalize s'.helper? offset name = b at hhelper ⊢
  cases hhelper with
  | none => exact Or.inl ⟨rfl, rfl⟩
  | @some a b hab =>
      obtain ⟨t, body⟩ := a
      obtain ⟨t', body'⟩ := b
      obtain ⟨rfl, ht, hlength, hdeeper⟩ := hab
      refine Or.inr ⟨t, body, body', rfl, rfl, ht, hlength, ?_⟩
      rcases Environment.descend?_of_budget_eq (hR.budget h) with
        hstop | ⟨deeper, deeper', hd, hd', hlt⟩
      · exact Or.inl hstop
      · exact Or.inr ⟨deeper, deeper', hd, hd', hlt,
          fun start => hdeeper deeper deeper' start hd hd'⟩

theorem holdsBy_eq (hR : Simulation T R) {s s' : Site} (h : R s s')
    (ih : ∀ {u u' : Site} {t : Template}, u.env.budget < s.env.budget →
      R u u' → T t →
      u.env.accepts t u.body u.start = u'.env.accepts t u'.body u'.start)
    (d : Delegation) :
    d.holdsBy s s.env.deeper? = d.holdsBy s' s'.env.deeper? := by
  unfold Delegation.holdsBy delegatesToBy occurrencesBy Environment.deeper?
  rcases hR.helper_cases h d.offset d.templateName with
    ⟨hs, hs'⟩ | ⟨t, body, body', hs, hs', ht, hlength,
      ⟨hd, hd'⟩ | ⟨deeper, deeper', hd, hd', hlt, hrelated⟩⟩
  · rw [hs, hs']
  · rw [hs, hs', hd, hd']
    cases d.demand <;> rfl
  · have hmatcher : deeper.accepts t body = deeper'.accepts t body' :=
      funext fun start => ih hlt (hrelated start) ht
    simp only [hs, hs', hd, hd', Option.map_some, hmatcher, hlength]

theorem passesBy_eq (hR : Simulation T R) {s s' : Site} (h : R s s')
    (ih : ∀ {u u' : Site} {t : Template}, u.env.budget < s.env.budget →
      R u u' → T t →
      u.env.accepts t u.body u.start = u'.env.accepts t u'.body u'.start)
    (t : Template) :
    t.passesBy s s.env.deeper? = t.passesBy s' s'.env.deeper? := by
  rw [Template.passesBy, Template.passesBy]
  congr 1
  funext v
  cases v with
  | constant answer => rfl
  | inspection i => exact hR.holds h i
  | delegation d => exact hR.holdsBy_eq h ih d

/-- Verdicts do not tell related sites apart. -/
theorem accepts_eq (hR : Simulation T R) {s s' : Site} {t : Template}
    (h : R s s') (ht : T t) :
    s.env.accepts t s.body s.start = s'.env.accepts t s'.body s'.start := by
  -- Each delegation spends budget, whichever helper it leads to.
  induction hn : s.env.budget using Nat.strongRecOn generalizing s s' t with
  | ind n ih =>
      subst hn
      have hverifies := hR.passesBy_eq h
        (fun hlt hu hv => ih _ hlt hu hv rfl) t
      rw [Environment.accepts_eq, Environment.accepts_eq, hR.fitsAt h ht]
      exact congrArg _ hverifies

theorem verifies_eq (hR : Simulation T R) {s s' : Site} (h : R s s')
    (t : Template) :
    s.env.verifies t s.body s.start = s'.env.verifies t s'.body s'.start :=
  hR.passesBy_eq h (fun _ hu hv => hR.accepts_eq hu hv) t

/-- Related sites have as many refusals. -/
theorem refusals_eq (hR : Simulation T R) {s s' : Site} (h : R s s')
    (t : Template) :
    s.env.refusals t s.body s.start = s'.env.refusals t s'.body s'.start := by
  induction hn : s.env.budget using Nat.strongRecOn generalizing s s' t with
  | ind n ih =>
      subst hn
      rw [Environment.refusals_eq, Environment.refusals_eq]
      unfold Template.refusalsBy
      split
      case h_2 => rfl
      case h_1 d _ =>
          unfold Delegation.refusalsBy
          rcases hR.helper_cases h d.offset d.templateName with
            ⟨hs, hs'⟩ | ⟨t, body, body', hs, hs', ht, hlength,
              ⟨hd, hd'⟩ | ⟨deeper, deeper', hd, hd', hlt, hrelated⟩⟩
          · rw [hs, hs']
          · rw [hs, hs', hd, hd']
            rfl
          · have hfits : t.fitsAt body = t.fitsAt body' :=
              funext fun start => hR.fitsAt (hrelated start) ht
            have hrefusals :
                deeper.refusals t body = deeper'.refusals t body' :=
              funext fun start => ih _ hlt (hrelated start) t rfl
            simp only [hs, hs', hd, hd', Option.map_some,
              Demand.positions_congr d.demand hlength]
            exact Tally.total_congr hfits hrefusals _

section Bodies

variable {env env' : Environment} {body body' : Body}

theorem attempt_eq (hR : Simulation T R) {t : Template} (ht : T t)
    (hlength : body.length = body'.length)
    (h : ∀ start, R ⟨env, body, start⟩ ⟨env', body', start⟩) :
    Matcher.attempt env.verifies t body =
      Matcher.attempt env'.verifies t body' :=
  Matcher.attempt_congr hlength (funext fun start => hR.fitsAt (h start) ht)
    (funext fun start => hR.verifies_eq (h start) t)

theorem attemptRefusals_eq (hR : Simulation T R) {t : Template} (ht : T t)
    (hlength : body.length = body'.length)
    (h : ∀ start, R ⟨env, body, start⟩ ⟨env', body', start⟩) :
    env.attemptRefusals t body = env'.attemptRefusals t body' := by
  have hfits : t.fitsAt body = t.fitsAt body' :=
    funext fun start => hR.fitsAt (h start) ht
  have hverifies : env.verifies t body = env'.verifies t body' :=
    funext fun start => hR.verifies_eq (h start) t
  rw [Environment.attemptRefusals_apply, Environment.attemptRefusals_apply,
    Matcher.refusals, Matcher.refusals, hfits, hverifies, hlength]
  exact Tally.total_congr hfits (funext fun start => hR.refusals_eq (h start) t) _

end Bodies

end Simulation

end Site

end HandlerRecognition
