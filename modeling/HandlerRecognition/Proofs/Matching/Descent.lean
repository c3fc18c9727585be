import HandlerRecognition.Proofs.Matching.Inclusion
import Mathlib.Data.List.Chain

/-!
# Descents into helpers

A verdict may need verdicts about helper methods, and these may need further ones.
A `Question` is whether a template is accepted at a site, and `Question.Asks`
relates it to the questions that its verifier has about helpers. The same template
and the same helper may come up again and again, so neither of them grows smaller
from one question to the next. The budget does. It bounds the length of every
chain of questions (`Question.depth_of_isChain`), and it is the reason why the
rule by which verdicts are reached has a single solution (`Environment.obeys_iff_eq`).

Apart from the budget, depth and bound do not matter: environments with the same
catalog, store and budget decide alike (`Environment.SameBudget.decidesAs`). This
includes environments whose bound was lowered to less than their depth.
-/

namespace HandlerRecognition

namespace Environment

variable {env env' : Environment}

section Depths

/-- The environment a number of helper methods deeper, whatever the bound. -/
def deeperBy (env : Environment) (n : Nat) : Environment :=
  { env with depth := env.depth + n }

theorem deeperBy_deeperBy (env : Environment) (m n : Nat) :
    (env.deeperBy m).deeperBy n = env.deeperBy (m + n) := by
  simp only [deeperBy, Nat.add_assoc]

/-- Descents count up the depth until the budget is spent. -/
theorem descents_eq (env : Environment) (n : Nat) :
    env.descents n =
      (List.range (min n env.budget)).map fun k => env.deeperBy (k + 1) := by
  induction n generalizing env with
  | zero => simp [descents]
  | succ n ih =>
      cases hd : env.descend? with
      | none =>
          have hspent : env.budget = 0 := descend?_eq_none_iff_budget.mp hd
          simp [descents, hd, hspent]
      | some deeper =>
          have hbudget : env.budget = deeper.budget + 1 := budget_of_descend? hd
          obtain rfl : deeper = env.deeperBy 1 := (descend?_eq_some_iff.mp hd).2
          simp only [descents, hd, ih, hbudget, Nat.add_min_add_right,
            List.range_succ_eq_map, List.map_cons, List.map_map,
            Function.comp_def, deeperBy_deeperBy, Nat.succ_eq_add_one,
            Nat.add_comm 1]

/-- The depth one helper method deeper, as machine words have it. -/
def deepen? (depth maxDepth : UInt64) : Option UInt64 :=
  if maxDepth ≤ depth then none else some (depth + 1)

/-- The environment whose depth and bound are machine words. -/
def ofWords (c : Catalog) (s : Store) (depth maxDepth : UInt64) : Environment :=
  ⟨c, s, depth.toNat, maxDepth.toNat⟩

/-- The depth does not overflow, since the bound is a word as well. -/
theorem deepen?_eq_some_iff {depth maxDepth depth' : UInt64} :
    deepen? depth maxDepth = some depth' ↔
      depth.toNat < maxDepth.toNat ∧ depth'.toNat = depth.toNat + 1 := by
  have hlimit := maxDepth.toNat_lt
  simp only [deepen?, Option.ite_none_left_eq_some, UInt64.le_iff_toNat_le,
    Nat.not_le, Option.some.injEq]
  refine and_congr_right fun hlt => ?_
  rw [← UInt64.toNat_inj, UInt64.toNat_add, UInt64.toNat_one, Nat.mod_eq_of_lt
    (by omega), eq_comm]

/-- Machine words descend as numbers do. -/
theorem descend?_ofWords (c : Catalog) (s : Store) (depth maxDepth : UInt64) :
    (ofWords c s depth maxDepth).descend? =
      (deepen? depth maxDepth).map fun d => ofWords c s d maxDepth := by
  cases h : deepen? depth maxDepth with
  | none =>
      have hle : maxDepth ≤ depth := by simpa [deepen?] using h
      exact descend?_eq_none_iff.mpr (UInt64.le_iff_toNat_le.mp hle)
  | some depth' =>
      obtain ⟨hlt, hnext⟩ := deepen?_eq_some_iff.mp h
      refine descend?_eq_some_iff.mpr ⟨hlt, ?_⟩
      simp only [ofWords, hnext]

end Depths

end Environment

/-- The question whether a template is accepted at a site. -/
structure Question where
  template : Template
  site : Site

namespace Question

variable {q r : Question}

def depth (q : Question) : Nat :=
  q.site.env.depth

def budget (q : Question) : Nat :=
  q.site.env.budget

/-- The answer to a question under a way to reach verdicts. -/
def answerBy (accepts : Environment → Matcher) (q : Question) : Bool :=
  accepts q.site.env q.template q.site.body q.site.start

/-- The verifier of a question that delegates has further questions. They are about
the template that it delegates to, in a helper and one level deeper, at each of the
positions that the demand is about. -/
inductive Asks (q : Question) : Question → Prop
  | helper {d : Delegation} {u : Template} {helper : Body}
      {deeper : Environment} {p : Nat}
      (hd : q.template.verifier? = some (.delegation d))
      (hhelper : q.site.helper? d.offset d.templateName = some (u, helper))
      (hdeeper : q.site.env.descend? = some deeper)
      (hp : p ∈ d.demand.positions helper) : Asks q ⟨u, ⟨deeper, helper, p⟩⟩

theorem Asks.descend? (h : q.Asks r) :
    q.site.env.descend? = some r.site.env := by
  cases h with
  | helper _ _ hdeeper _ => exact hdeeper

/-- Each question costs one level of the budget. -/
theorem Asks.budget (h : q.Asks r) : q.budget = r.budget + 1 :=
  Environment.budget_of_descend? h.descend?

theorem Asks.depth (h : q.Asks r) : r.depth = q.depth + 1 := by
  obtain ⟨-, henv⟩ := Environment.descend?_eq_some_iff.mp h.descend?
  rw [Question.depth, henv]
  rfl

/-- A chain of questions goes one level deeper each time and is no longer than the
budget. -/
theorem depth_of_isChain {path : List Question}
    (h : List.IsChain Asks (q :: path)) :
    path.length ≤ q.budget ∧
      path.map depth = List.range' (q.depth + 1) path.length := by
  induction path generalizing q with
  | nil => exact ⟨Nat.zero_le _, rfl⟩
  | cons r path ih =>
      obtain ⟨hasks, hrest⟩ := List.isChain_cons_cons.mp h
      obtain ⟨hlength, hdepths⟩ := ih hrest
      have hbudget := hasks.budget
      rw [List.map_cons, List.length_cons, List.range'_succ, hdepths, hasks.depth]
      exact ⟨by omega, rfl⟩

/-- Questions come to an end, also where helpers call each other in a circle. -/
theorem wellFounded_asks : WellFounded fun r q : Question => q.Asks r := by
  refine Subrelation.wf (fun {r q} h => ?_) (measure budget).wf
  have hbudget : q.budget = r.budget + 1 := h.budget
  exact Nat.lt_of_succ_le hbudget.ge

end Question

/-- A delegation asks about the positions of its demand and about no others. -/
theorem Delegation.holdsBy_eq_of_positions {accepts accepts' : Environment → Matcher}
    {d : Delegation} {s : Site}
    (h : ∀ u helper deeper,
      s.helper? d.offset d.templateName = some (u, helper) →
        s.env.descend? = some deeper → ∀ p ∈ d.demand.positions helper,
          accepts deeper u helper p = accepts' deeper u helper p) :
    d.holdsBy s (s.env.descend?.map accepts) =
      d.holdsBy s (s.env.descend?.map accepts') := by
  rw [holdsBy, holdsBy]
  cases hhelper : s.helper? d.offset d.templateName with
  | none => simp only [Site.delegatesToBy, Site.occurrencesBy, hhelper]
  | some a =>
      obtain ⟨u, helper⟩ := a
      cases hdeeper : s.env.descend? with
      | none => rfl
      | some deeper =>
          have hasked := h u helper deeper hhelper hdeeper
          rw [← hdeeper]
          cases hdemand : d.demand with
          | atStart =>
              have hfirst : accepts deeper u helper 0 = accepts' deeper u helper 0 :=
                hasked 0 (by simp [hdemand, Demand.positions])
              rw [Site.delegatesToBy_eq hhelper hdeeper, hfirst,
                Site.delegatesToBy_eq hhelper hdeeper]
          | once =>
              have hcount :
                  (List.range helper.length).countP (accepts deeper u helper) =
                    (List.range helper.length).countP (accepts' deeper u helper) := by
                refine List.countP_congr fun p hp => ?_
                rw [hasked p (by simpa only [hdemand, Demand.positions] using hp)]
              rw [Site.occurrencesBy_eq hhelper hdeeper, hcount,
                Site.occurrencesBy_eq hhelper hdeeper]

namespace Environment

variable {env env' : Environment}

/-- A verifier has no other questions than those that it asks. -/
theorem passesBy_eq_of_asks {accepts accepts' : Environment → Matcher}
    {q : Question}
    (h : ∀ r, q.Asks r → r.answerBy accepts = r.answerBy accepts') :
    q.template.passesBy q.site (q.site.env.descend?.map accepts) =
      q.template.passesBy q.site (q.site.env.descend?.map accepts') := by
  rw [Template.passesBy, Template.passesBy]
  cases hverifier : q.template.verifier? with
  | none => rfl
  | some v =>
      cases v with
      | constant answer => rfl
      | inspection i => rfl
      | delegation d =>
          refine Delegation.holdsBy_eq_of_positions ?_
          intro u helper deeper hhelper hdeeper p hp
          exact h _ (.helper hverifier hhelper hdeeper hp)

/-- The rule by which verdicts are reached, one level after the other. It has no end
of its own. -/
def Obeys (accepts : Environment → Matcher) : Prop :=
  ∀ env, accepts env = env.verdictBy (env.descend?.map accepts)

/-- There is exactly one way to reach verdicts by the rule. -/
theorem obeys_iff_eq {accepts : Environment → Matcher} :
    Obeys accepts ↔ accepts = Environment.accepts := by
  constructor
  · intro h
    have hanswer (q : Question) :
        q.answerBy accepts = q.answerBy Environment.accepts := by
      -- Template and body may come up again in the questions that are asked. The
      -- induction is on these questions, and the budget alone is what ends it.
      induction q using Question.wellFounded_asks.induction with
      | _ q ih =>
          rw [Question.answerBy, Question.answerBy, h, accepts_eq, verifies, verdictBy,
            deeper?]
          exact congrArg _ (passesBy_eq_of_asks ih)
    funext env t body start
    exact hanswer ⟨t, ⟨env, body, start⟩⟩
  · rintro rfl env
    funext t body start
    exact env.accepts_eq t body start

/-- The same catalog and store, and as many helper methods deeper to go. -/
structure SameBudget (env env' : Environment) : Prop where
  catalog : env.catalog = env'.catalog
  store : env.store = env'.store
  budget : env.budget = env'.budget

theorem SameBudget.descend {deeper deeper' : Environment}
    (h : env.SameBudget env') (hd : env.descend? = some deeper)
    (hd' : env'.descend? = some deeper') : deeper.SameBudget deeper' where
  catalog := by rw [catalog_of_descend? hd, catalog_of_descend? hd', h.catalog]
  store := by rw [store_of_descend? hd, store_of_descend? hd', h.store]
  budget := by
    have hbudget := budget_of_descend? hd
    have hbudget' := budget_of_descend? hd'
    have heq := h.budget
    omega

end Environment

namespace Site

/-- The same place, in environments that differ in depth and bound only. -/
structure SamePlace (s s' : Site) : Prop where
  env : s.env.SameBudget s'.env
  body : s.body = s'.body
  start : s.start = s'.start

theorem SamePlace.helper? {s s' : Site} (h : s.SamePlace s') (offset : Nat)
    (name : String) : s.helper? offset name = s'.helper? offset name := by
  simp only [Site.helper?, methodToken?, instruction?, h.env.catalog, h.env.store,
    h.body, h.start]

/-- Verdicts do not see depth and bound. -/
theorem simulation_samePlace : Simulation (fun _ => True) SamePlace where
  budget h := h.env.budget
  fitsAt h _ := by rw [h.body, h.start]
  holds {s s'} h i := by
    rw [i.holds_eq_of_store_eq h.env.store s.body s.start, h.body, h.start]
  helper? {s s'} h offset name := by
    rw [h.helper?]
    cases s'.helper? offset name with
    | none => exact .none
    | some a =>
        exact .some ⟨rfl, trivial, rfl, fun deeper deeper' start hd hd' =>
          ⟨h.env.descend hd hd', rfl, rfl⟩⟩

end Site

namespace Environment

/-- The same verdicts on every template and body, and the same answers about
helpers. -/
structure DecidesAs (env env' : Environment) : Prop where
  accepts : env.accepts = env'.accepts
  verifies : env.verifies = env'.verifies
  positions : env.positions = env'.positions
  count : env.count = env'.count
  locate? : env.locate? = env'.locate?
  delegatesTo (body : Body) (start offset : Nat) (name : String) :
    Site.delegatesTo ⟨env, body, start⟩ offset name =
      Site.delegatesTo ⟨env', body, start⟩ offset name
  occurrencesIn (body : Body) (start offset : Nat) (name : String) :
    Site.occurrencesIn ⟨env, body, start⟩ offset name =
      Site.occurrencesIn ⟨env', body, start⟩ offset name

namespace SameBudget

variable {env env' : Environment}

theorem samePlace (h : env.SameBudget env') (body : Body) (start : Nat) :
    Site.SamePlace ⟨env, body, start⟩ ⟨env', body, start⟩ :=
  ⟨h, rfl, rfl⟩

theorem accepts_eq (h : env.SameBudget env') : env.accepts = env'.accepts := by
  funext t body start
  exact Site.simulation_samePlace.accepts_eq (h.samePlace body start) trivial

theorem verifies_eq (h : env.SameBudget env') : env.verifies = env'.verifies := by
  funext t body start
  exact Site.simulation_samePlace.verifies_eq (h.samePlace body start) t

theorem deeper?_eq (h : env.SameBudget env') : env.deeper? = env'.deeper? := by
  rw [deeper?, deeper?]
  rcases descend?_of_budget_eq h.budget with
    ⟨hd, hd'⟩ | ⟨deeper, deeper', hd, hd', -⟩
  · rw [hd, hd']
  · rw [hd, hd', Option.map_some, Option.map_some, (h.descend hd hd').accepts_eq]

theorem decidesAs (h : env.SameBudget env') : env.DecidesAs env' where
  accepts := h.accepts_eq
  verifies := h.verifies_eq
  positions := by
    funext t body
    rw [positions, positions, h.accepts_eq]
  count := by
    funext t body
    rw [count, count, positions, positions, h.accepts_eq]
  locate? := by
    funext t body
    rw [locate?, locate?, h.accepts_eq]
  delegatesTo body start offset name := by
    have hhelper := (h.samePlace body start).helper? offset name
    simp only [Site.delegatesTo, Site.delegatesToBy, h.deeper?_eq, hhelper]
  occurrencesIn body start offset name := by
    have hhelper := (h.samePlace body start).helper? offset name
    simp only [Site.occurrencesIn, Site.occurrencesBy, h.deeper?_eq, hhelper]

end SameBudget

/-- Only what is left of the budget matters, and delegation ends. At a bound of `m`
exactly `m` descents succeed one after the other. Each goes one level deeper, and a
machine word for the depth does not overflow. A chain of questions about helpers is
not longer than `m`, and the questions in it are at the depths from one on. So the
rule by which verdicts are reached has a single solution, also where helpers call
each other in a circle. Environments over the same catalog and store decide alike if
their budgets are equal, be it that the bound of one was lowered to less than its
depth. -/
theorem decidesAs_of_budget (c : Catalog) (s : Store) :
    (∀ m n : Nat, ((top c s).withMaxDepth m).descents n =
      (List.range (min n m)).map fun k => ⟨c, s, k + 1, m⟩) ∧
    (∀ depth m : UInt64, (ofWords c s depth m).descend? =
      (deepen? depth m).map fun d => ofWords c s d m) ∧
    (∀ (m : Nat) (t : Template) (body : Body) (start : Nat)
      (path : List Question),
      List.IsChain Question.Asks
        (⟨t, ⟨(top c s).withMaxDepth m, body, start⟩⟩ :: path) →
        path.length ≤ m ∧
          path.map Question.depth = List.range' 1 path.length) ∧
    (∀ accepts, Obeys accepts ↔ accepts = Environment.accepts) ∧
    ∀ {depth maxDepth depth' maxDepth' : Nat},
      maxDepth - depth = maxDepth' - depth' →
        DecidesAs ⟨c, s, depth, maxDepth⟩ ⟨c, s, depth', maxDepth'⟩ := by
  refine ⟨fun m n => ?_, descend?_ofWords c s, fun m t body start path hpath => ?_,
    fun _ => obeys_iff_eq, fun {_ _ _ _} hbudget => ?_⟩
  · rw [descents_eq]
    simp only [budget, deeperBy, withMaxDepth, top, Nat.sub_zero, Nat.zero_add]
  · exact Question.depth_of_isChain hpath
  · exact SameBudget.decidesAs ⟨rfl, rfl, hbudget⟩

/-- Two templates that delegate to each other, in a helper that calls itself. A
bound of two allows two questions. -/
theorem decidesAs_of_budget_circle :
    let callee : Token := .ofParts Token.methodTable 1
    let body : Body := [⟨0, .ldarg0, .none⟩, ⟨1, .callvirt, .token callee⟩]
    let link (name : String) (d : Delegation) : Template :=
      (Template.window name none [.ldarg0, .callvirt]).verifiedBy (.delegation d)
    let there : Template := link Builtin.enableReturnName .readsTopOnce
    let back : Template := link Builtin.peekStackName .endsInterpreter
    let c : Catalog := ⟨[there, back], by decide⟩
    let s : Store :=
      ⟨.ofList [.method ⟨callee, "", none, ⟨none, []⟩, some body⟩], by decide⟩
    let question (t : Template) (depth : Nat) : Question :=
      ⟨t, ⟨⟨c, s, depth, 2⟩, body, 0⟩⟩
    let path : List Question := [question back 1, question there 2]
    List.IsChain Question.Asks (question there 0 :: path) ∧
      (path.length ≤ 2 ∧ path.map Question.depth = List.range' 1 path.length) ∧
      ((top c s).withMaxDepth 2).descents 7 = [⟨c, s, 1, 2⟩, ⟨c, s, 2, 2⟩] ∧
      3 - 5 = 2 - 2 ∧ DecidesAs ⟨c, s, 5, 3⟩ ⟨c, s, 2, 2⟩ := by
  intro callee body link there back c s question path
  obtain ⟨hdescents, -, hpath, -, hdecides⟩ := decidesAs_of_budget c s
  have hthere : (question there 0).Asks (question back 1) :=
    .helper rfl (by decide) rfl (by decide)
  have hback : (question back 1).Asks (question there 2) :=
    .helper rfl (by decide) rfl (by decide)
  have hchain : List.IsChain Question.Asks (question there 0 :: path) :=
    .cons_cons hthere (.cons_cons hback (.singleton _))
  exact ⟨hchain, hpath 2 there body 0 path hchain, hdescents 2 7, by decide,
    hdecides (by decide)⟩

end Environment

end HandlerRecognition
