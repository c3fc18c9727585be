import HandlerRecognition.Proofs.Matching.Chain
import HandlerRecognition.Proofs.Metadata.Inclusion

/-!
# Verdicts with more metadata

An inspection only asks for answers, so with more records it still holds if it
held, and a template that does not delegate is still accepted where it was.

A delegation may demand that another template is accepted at exactly one
position of a helper. With more records the positions may become more, and only
then does a delegation that held no longer hold.
-/

namespace HandlerRecognition

theorem Token.isMember_eq_false_of_isMethod {t : Token}
    (h : t.isMethod = true) : t.isMember = false := by
  rw [isMethod, beq_iff_eq] at h
  rw [isMember, h]
  rfl

/-- No instruction calls a method of this module and one of another. -/
theorem Instruction.memberToken?_eq_none {i : Instruction} {t : Token}
    (h : i.methodToken? = some t) : i.memberToken? = none := by
  rw [methodToken?, Option.filter_eq_some_iff] at h
  simp [memberToken?, h.1, Token.isMember_eq_false_of_isMethod h.2]

namespace Site

variable {s : Site} {offset : Nat} {name : String} {u : Template} {body : Body}
  {deeper : Environment}

/-- An instruction that calls a method of this module refers to no member of
another, whatever is known about members. -/
theorem memberToken?_eq_none_of_method? {m : MethodRecord}
    (h : s.method? offset = some m) :
    (s.instruction? offset).bind Instruction.memberToken? = none := by
  obtain ⟨t, ht, -⟩ := Option.bind_eq_some_iff.mp h
  obtain ⟨i, hi, ht⟩ := Option.bind_eq_some_iff.mp ht
  rw [hi]
  exact Instruction.memberToken?_eq_none ht

theorem delegatesToBy_eq {accepts : Environment → Matcher}
    (hhelper : s.helper? offset name = some (u, body))
    (hdeeper : s.env.descend? = some deeper) :
    s.delegatesToBy (s.env.descend?.map accepts) offset name =
      accepts deeper u body 0 := by
  simp only [delegatesToBy, hhelper, hdeeper, Option.map_some]

theorem occurrencesBy_eq {accepts : Environment → Matcher}
    (hhelper : s.helper? offset name = some (u, body))
    (hdeeper : s.env.descend? = some deeper) :
    s.occurrencesBy (s.env.descend?.map accepts) offset name =
      some ((List.range body.length).countP (accepts deeper u body)) := by
  simp only [occurrencesBy, hhelper, hdeeper, Option.map_some]

theorem delegatesTo_eq (hhelper : s.helper? offset name = some (u, body))
    (hdeeper : s.env.descend? = some deeper) :
    s.delegatesTo offset name = deeper.accepts u body 0 :=
  delegatesToBy_eq hhelper hdeeper

theorem occurrencesIn_eq (hhelper : s.helper? offset name = some (u, body))
    (hdeeper : s.env.descend? = some deeper) :
    s.occurrencesIn offset name =
      some ((List.range body.length).countP (deeper.accepts u body)) :=
  occurrencesBy_eq hhelper hdeeper

end Site

namespace Delegation

variable {d : Delegation} {s : Site}

theorem holdsBy_of_atStart (hd : d.demand = .atStart) :
    d.holdsBy s s.env.deeper? = s.delegatesTo d.offset d.templateName := by
  rw [holdsBy, hd]
  rfl

theorem holdsBy_of_once (hd : d.demand = .once) :
    d.holdsBy s s.env.deeper? = true ↔
      s.occurrencesIn d.offset d.templateName = some 1 := by
  rw [holdsBy, hd]
  exact beq_iff_eq

end Delegation

/-- The same catalog and depth, and a store with more records. -/
structure Environment.IncludedIn (env env' : Environment) : Prop where
  catalog : env.catalog = env'.catalog
  store : env.store.IncludedIn env'.store
  depth : env.depth = env'.depth
  maxDepth : env.maxDepth = env'.maxDepth

section Included

variable {env env' : Environment} {body : Body} {start : Nat}

namespace Site

variable (h : env.IncludedIn env') (offset : Nat)
include h

theorem method?_kept :
    Kept (method? ⟨env, body, start⟩ offset)
      (method? ⟨env', body, start⟩ offset) :=
  (Kept.refl _).bind h.store.method?

theorem member?_kept :
    Kept (member? ⟨env, body, start⟩ offset)
      (member? ⟨env', body, start⟩ offset) :=
  (Kept.refl _).bind h.store.member?

theorem field?_kept :
    Kept (field? ⟨env, body, start⟩ offset)
      (field? ⟨env', body, start⟩ offset) :=
  (Kept.refl _).bind h.store.field?

theorem constructedType?_kept :
    Kept (constructedType? ⟨env, body, start⟩ offset)
      (constructedType? ⟨env', body, start⟩ offset) :=
  (((method?_kept h offset).filter _).bind fun _ => .refl _).bind h.store.type?

theorem called?_kept :
    Kept (Inspection.called? ⟨env, body, start⟩ offset)
      (Inspection.called? ⟨env', body, start⟩ offset) := by
  intro x hx
  rw [Inspection.called?] at hx ⊢
  cases hmember : member? ⟨env, body, start⟩ offset with
  | some m =>
      rw [hmember] at hx
      rw [member?_kept h offset m hmember]
      exact hx
  | none =>
      rw [hmember] at hx
      obtain ⟨m, hm, rfl⟩ := Option.map_eq_some_iff.mp hx
      have hmethod := method?_kept h offset m hm
      have hmember' : member? ⟨env', body, start⟩ offset = none := by
        rw [member?, memberToken?_eq_none_of_method? hmethod]
        rfl
      rw [hmember', hmethod]
      rfl

theorem helper?_kept (name : String) :
    Kept (helper? ⟨env, body, start⟩ offset name)
      (helper? ⟨env', body, start⟩ offset name) := by
  rw [helper?, helper?, h.catalog]
  exact (Kept.refl _).bind fun t => ((Kept.refl _).bind h.store.body?).map _

end Site

/-- An inspection that held still holds with more records. -/
theorem Inspection.holds_kept (h : env.IncludedIn env') (i : Inspection)
    (hi : i.holds ⟨env, body, start⟩ = true) :
    i.holds ⟨env', body, start⟩ = true := by
  have hwrapper (valueName : String)
      (hi : constructsWrapper ⟨env, body, start⟩ valueName = true) :
      constructsWrapper ⟨env', body, start⟩ valueName = true := by
    refine (Site.constructedType?_kept h 1).any (fun wrapper hwrapper => ?_) hi
    rw [Bool.and_eq_true] at hwrapper ⊢
    exact ⟨hwrapper.1,
      (h.store.baseOf? wrapper.token).any (fun _ => id) hwrapper.2⟩
  have hreads (accessor : String)
      (hi : readsThrough ⟨env, body, start⟩ accessor = true) :
      readsThrough ⟨env', body, start⟩ accessor = true :=
    (Site.called?_kept h 2).any (fun _ => id) hi
  have hmethod (offset : Nat) (p : MethodRecord → Bool)
      (hi : (Site.method? ⟨env, body, start⟩ offset).any p = true) :
      (Site.method? ⟨env', body, start⟩ offset).any p = true :=
    (Site.method?_kept h offset).any (fun _ => id) hi
  cases i with
  | resolvesString => exact hmethod 6 _ hi
  | setsFlag => exact (Site.field?_kept h 2).any (fun _ => id) hi
  | wrapsObject => exact hwrapper _ hi
  | wrapsInteger => exact hwrapper _ hi
  | readsTop => exact hreads _ hi
  | takesTop => exact hreads _ hi
  | loadsFieldHandle =>
      rw [holds, Bool.and_eq_true] at hi ⊢
      exact ⟨hmethod 2 _ hi.1,
        (Site.member?_kept h 3).any (fun _ => id) hi.2⟩
  | boxesAsType =>
      rw [holds, Bool.and_eq_true] at hi ⊢
      exact ⟨hmethod 7 _ hi.1, hmethod 13 _ hi.2⟩

namespace Environment

variable {t : Template}

theorem IncludedIn.descend? (h : env.IncludedIn env') {deeper : Environment}
    (hd : env.descend? = some deeper) :
    ∃ deeper', env'.descend? = some deeper' ∧ deeper.IncludedIn deeper' := by
  obtain ⟨hlt, rfl⟩ := descend?_eq_some_iff.mp hd
  rw [h.depth, h.maxDepth] at hlt
  refine ⟨_, descend?_eq_some_iff.mpr ⟨hlt, rfl⟩, h.catalog, h.store, ?_,
    h.maxDepth⟩
  exact congrArg (· + 1) h.depth

/-- A template that does not delegate is still accepted where it was. -/
theorem accepts_kept (h : env.IncludedIn env')
    (ht : ∀ d, t.verifier? ≠ some (.delegation d))
    (haccepts : env.accepts t body start = true) :
    env'.accepts t body start = true := by
  rw [accepts_eq, Bool.and_eq_true] at haccepts ⊢
  exact ⟨haccepts.1,
    verifies_of_holds ht (Inspection.holds_kept h) haccepts.2⟩

end Environment

/-- A delegation to a template that does not delegate itself still holds, or it
demands exactly one occurrence and there are several now. -/
theorem Delegation.holdsBy_kept (h : env.IncludedIn env') {d : Delegation}
    {u : Template} (hfind : env.catalog.find? d.templateName = some u)
    (hu : ∀ d, u.verifier? ≠ some (.delegation d))
    (hd : d.holdsBy ⟨env, body, start⟩ env.deeper? = true) :
    d.holdsBy ⟨env', body, start⟩ env'.deeper? = true ∨
      d.demand = .once ∧ ∃ n, 2 ≤ n ∧
        Site.occurrencesIn ⟨env', body, start⟩ d.offset d.templateName =
          some n := by
  obtain ⟨u', helper, deeper, -, hhelper, hdeeper, -⟩ :=
    exists_accepts_of_holdsBy hd
  obtain rfl : u = u' :=
    Option.some.inj (hfind.symm.trans (Site.find?_of_helper? hhelper))
  obtain ⟨deeper', hdeeper', hincluded⟩ := h.descend? hdeeper
  have hhelper' := Site.helper?_kept h d.offset d.templateName _ hhelper
  have haccepts (p : Nat) (hp : deeper.accepts u helper p = true) :
      deeper'.accepts u helper p = true :=
    Environment.accepts_kept hincluded hu hp
  cases hdemand : d.demand with
  | atStart =>
      rw [holdsBy_of_atStart hdemand, Site.delegatesTo_eq hhelper hdeeper] at hd
      rw [holdsBy_of_atStart hdemand, Site.delegatesTo_eq hhelper' hdeeper']
      exact Or.inl (haccepts 0 hd)
  | once =>
      rw [holdsBy_of_once hdemand, Site.occurrencesIn_eq hhelper hdeeper,
        Option.some.injEq] at hd
      rw [holdsBy_of_once hdemand, Site.occurrencesIn_eq hhelper' hdeeper',
        Option.some.injEq]
      have hle := List.countP_mono_left (l := List.range helper.length)
        fun p _ => haccepts p
      by_cases hone : (List.range helper.length).countP
          (deeper'.accepts u helper) = 1
      · exact Or.inl hone
      · exact Or.inr ⟨rfl, _, by omega, rfl⟩

end Included

end HandlerRecognition
