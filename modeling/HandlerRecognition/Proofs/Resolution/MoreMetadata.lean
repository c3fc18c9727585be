import HandlerRecognition.Proofs.Matching.Inclusion
import HandlerRecognition.Proofs.Resolution.Binding

/-!
# Bindings with more metadata

What happens to a binding by a built-in template when more records become known?
Where the verifier of a template held, it still holds as a rule, and the handler
stays bound to the same opcode. A template that is tried at every position may
be found further to the front.

The verifiers of `dup` and `pop` count accesses to the stack in a helper, and an
access by an unknown token does not count. So a helper with several accesses
passes as one with a single access as long as the others are unknown, and the
binding is withdrawn once they are known. No other binding is ever withdrawn.
-/

namespace HandlerRecognition

/-- Whether a template demands a single occurrence in a helper that has
several. -/
def Environment.Overcounts (env : Environment) (t : Template) (body : Body)
    (p : Nat) : Prop :=
  ∃ d n, t.verifier? = some (.delegation d) ∧ d.demand = .once ∧ 2 ≤ n ∧
    Site.occurrencesIn ⟨env, body, p⟩ d.offset d.templateName = some n

namespace Environment

variable {env env' : Environment} {t : Template} {body : Body} {p : Nat}

theorem Overcounts.exists_delegation (h : env.Overcounts t body p) :
    ∃ d, t.verifier? = some (.delegation d) := by
  obtain ⟨d, -, hd, -⟩ := h
  exact ⟨d, hd⟩

theorem Overcounts.not_verifies (h : env.Overcounts t body p) :
    env.verifies t body p = false := by
  obtain ⟨d, n, hd, honce, hn, hoccurs⟩ := h
  rw [verifies_of_delegation hd, Bool.eq_false_iff, Ne,
    Delegation.holdsBy_of_once (s := ⟨env, body, p⟩) honce, hoccurs,
    Option.some.injEq]
  omega

end Environment

namespace Builtin

variable {env env' : Environment} {t : Template} {body : Body} {p : Nat}

/-- A verifier that held still holds, unless it demands a single occurrence and
there are several now. -/
theorem verifies_kept (h : env.IncludedIn env') (hc : env.catalog = catalog)
    (hverifies : env.verifies t body p = true) :
    env'.verifies t body p = true ∨ env'.Overcounts t body p := by
  by_cases hd : ∃ d, t.verifier? = some (.delegation d)
  · obtain ⟨d, hd⟩ := hd
    have htemplates : templates ⊆ env.catalog.templates := by
      rw [hc]
      exact List.Subset.refl _
    obtain ⟨u, i, hfind, hi⟩ :=
      Catalog.exists_inspection_of_builtin htemplates d
    rw [Environment.verifies_of_delegation hd] at hverifies ⊢
    rcases Delegation.holdsBy_kept h hfind (by simp [hi]) hverifies with
      hkept | ⟨honce, n, hn, hoccurs⟩
    · exact Or.inl hkept
    · exact Or.inr ⟨d, n, hd, honce, hn, hoccurs⟩
  · exact Or.inl (Environment.verifies_of_holds (fun d h => hd ⟨d, h⟩)
      (Inspection.holds_kept h) hverifies)

/-- The shape of a template that delegates is shared by no other template. -/
theorem shaped_eq_singleton {d : Delegation}
    (hd : t.verifier? = some (.delegation d)) (ht : t ∈ catalog.shaped body) :
    catalog.shaped body = [t] := by
  rcases shaped_cases body with hshaped | ⟨u, hshaped⟩ | hshaped
  · simp [hshaped] at ht
  · rw [hshaped, List.mem_singleton] at ht
    rw [hshaped, ht]
  · rw [hshaped] at ht
    have hinspection : ∀ u ∈ [ldnull, ldcI4Zero],
        u.verifier? ≠ some (.delegation d) := by
      simp [ldnull, ldcI4Zero, Template.verifiedBy]
    exact absurd hd (hinspection t ht)

theorem anchor_of_delegation {d : Delegation}
    (hd : t.verifier? = some (.delegation d)) (ht : t ∈ catalog.bound) :
    t.anchor = .start := by
  rcases (isVerified_and_anchor ht).2 with rfl | hanchor
  · simp [ldtoken, Template.verifiedBy] at hd
  · exact hanchor

theorem target?_of_overcounts (hcounts : env.Overcounts t body p)
    (ht : t ∈ catalog.bound) :
    t.target? = some .dup ∨ t.target? = some .pop := by
  obtain ⟨d, n, hd, honce, -⟩ := hcounts
  have hall : ∀ t ∈ catalog.bound,
      ∀ d ∈ [Delegation.readsTopOnce, .takesTopOnce],
        t.verifier? = some (.delegation d) →
          t.target? = some .dup ∨ t.target? = some .pop := by
    decide
  cases d with
  | endsInterpreter => simp [Delegation.demand] at honce
  | readsTopOnce => exact hall t ht _ (by simp) hd
  | takesTopOnce => exact hall t ht _ (by simp) hd

/-- At the only position at which it is tried, a template that overcounts is
refused. -/
theorem located_eq_nil_of_overcounts (hcounts : env.Overcounts t body 0)
    (ht : t ∈ catalog.shaped body) :
    catalog.located env.locate? body = [] := by
  have hrefuse := hcounts.not_verifies
  obtain ⟨d, hd⟩ := hcounts.exists_delegation
  have hanchor := anchor_of_delegation hd (List.mem_filter.mp ht).1
  rw [List.eq_nil_iff_forall_not_mem]
  intro u hu
  rw [Environment.locate?_eq] at hu
  have hmem := (catalog.located_sublist_shaped env.verifies body).subset hu
  rw [shaped_eq_singleton hd ht, List.mem_singleton] at hmem
  subst hmem
  obtain ⟨q, hq⟩ := Option.isSome_iff_exists.mp (List.mem_filter.mp hu).2
  obtain rfl := Matcher.eq_zero_of_locate? hanchor hq
  simp [(Matcher.of_locate?_eq_some hq).2.2] at hrefuse

section Follows

variable {id : HandlerId} {outcome : Outcome}

/-- Where a template overcounts, it is the only one that is refused. -/
theorem rejected_of_overcounts
    (hf : Outcome.Follows catalog env.locate? id body outcome)
    (hcounts : env.Overcounts t body 0) (ht : t ∈ catalog.shaped body) :
    outcome = .unresolved (.rejected [t.name]) := by
  obtain ⟨d, hd⟩ := hcounts.exists_delegation
  have hlocated := located_eq_nil_of_overcounts hcounts ht
  refine (hf.rejected _).mpr ⟨hlocated, by simp, ?_⟩
  rw [shaped_eq_singleton hd ht]
  rfl

/-- A binding is kept, or its template overcounts now, which only a template of
`dup` or `pop` can do. -/
theorem bound_kept (h : env.IncludedIn env') (hc : env.catalog = catalog)
    {b : Binding}
    (hf : Outcome.Follows catalog env.locate? id body (.bound b))
    (hf' : Outcome.Follows catalog env'.locate? id body outcome) :
    (∃ q ≤ b.position, outcome = .bound { b with position := q }) ∨
      outcome = .unresolved (.rejected [b.template]) ∧
        (b.opcode = .dup ∨ b.opcode = .pop) ∧
        ∃ t ∈ catalog.bound, t.name = b.template ∧
          env'.Overcounts t body b.position := by
  obtain ⟨t, rest, hlocated, htargets, hlocate, hid, hname, hverified⟩ :=
    (hf.bound b).mp rfl
  have hmem : t ∈ catalog.located env.locate? body := by
    rw [hlocated]
    exact List.mem_cons_self
  have ht : t ∈ catalog.bound := (List.mem_filter.mp hmem).1
  have htarget := Catalog.target?_of_locatedTargets hmem htargets
  rw [Environment.locate?_eq] at hlocate
  obtain ⟨hspan, hfits, hverifies⟩ := Matcher.of_locate?_eq_some hlocate
  rcases verifies_kept h hc hverifies with hkept | hcounts
  · have haccepts : env'.accepts t body b.position = true := by
      rw [Environment.accepts_eq, hfits, hkept]
      rfl
    obtain ⟨q, hq, hlocate'⟩ := Environment.exists_locate?_le hspan haccepts
    refine Or.inl ⟨q, hq, ?_⟩
    rw [bound_of_locate? hf' ht htarget hlocate', hid, hname, hverified]
  · have hshaped : t ∈ catalog.shaped body :=
      List.mem_filter.mpr ⟨ht, Matcher.fitsSomewhere_of_locate?
        (Option.isSome_iff_exists.mpr ⟨_, hlocate⟩)⟩
    obtain ⟨d, hd⟩ := hcounts.exists_delegation
    have hanchor := anchor_of_delegation hd ht
    have hzero := Matcher.eq_zero_of_locate? hanchor hlocate
    have hopcode : b.opcode = .dup ∨ b.opcode = .pop := by
      simpa [htarget] using target?_of_overcounts hcounts ht
    refine Or.inr ⟨?_, hopcode, t, ht, hname.symm, hcounts⟩
    rw [hzero] at hcounts
    rw [rejected_of_overcounts hf' hcounts hshaped, hname]

end Follows

/-- A binding by a built-in template outlasts any addition of records, at the
same position or further to the front, unless it is to `dup` or `pop` and the
additional records tell that the helper accesses the stack several times and not
once. Then the handler is rejected by the template that it was bound by. -/
theorem resolveOne_kept (config : Config) {s s' : Store} (h : s.IncludedIn s')
    (g : Handler) (b : Binding)
    (hb : (Resolver.mk catalog s config).resolveOne g = .bound b) :
    let r' : Resolver := ⟨catalog, s', config⟩
    (∃ p ≤ b.position, r'.resolveOne g = .bound { b with position := p }) ∨
      r'.resolveOne g = .unresolved (.rejected [b.template]) ∧
        (b.opcode = .dup ∨ b.opcode = .pop) ∧
        ∃ t ∈ catalog.bound, ∃ body, t.name = b.template ∧
          g.body? = some body ∧
          r'.environment.Overcounts t body b.position := by
  intro r'
  let r : Resolver := ⟨catalog, s, config⟩
  have henv : r.environment.IncludedIn r'.environment := ⟨rfl, h, rfl, rfl⟩
  rcases (r.follows_locate? g).both (r'.follows_locate? g) with
    ⟨-, hnone | hempty⟩ | ⟨body, hbody, hf, hf'⟩
  · simp [r, hb] at hnone
  · simp [r, hb] at hempty
  · rw [hb] at hf
    rcases bound_kept henv rfl hf hf' with
      hkept | ⟨hrejected, hopcode, t, ht, hname, hcounts⟩
    · exact Or.inl hkept
    · exact Or.inr ⟨hrejected, hopcode, t, ht, body, hname, hbody, hcounts⟩

/-- A body in which two places have the shape of `ldtoken`. The method that the
first of them calls becomes known. -/
theorem resolveOne_kept_further_front :
    let resolveField (row : UInt32) : MethodRecord :=
      ⟨.ofParts Token.methodTable row, "", none,
        ⟨some Inspection.fieldInfoName, []⟩, none⟩
    let accessor : MemberRecord :=
      ⟨.ofParts Token.memberTable 1, "System.Reflection.FieldInfo",
        "get_FieldHandle", ⟨some "System.RuntimeFieldHandle", []⟩⟩
    let window (row : UInt32) : Body :=
      [⟨0, .ldarg0, .none⟩, ⟨1, .ldloc0, .none⟩,
        ⟨2, .callvirt, .token (resolveField row).token⟩,
        ⟨7, .callvirt, .token accessor.token⟩, ⟨12, .box, .none⟩,
        ⟨17, .stloc2, .none⟩]
    let records : List Record := [.method (resolveField 2), .member accessor]
    let records' : List Record := .method (resolveField 1) :: records
    let s : Store := ⟨.ofList records, by decide⟩
    let s' : Store := ⟨.ofList records', by decide⟩
    let g : Handler := ⟨⟨4⟩, some (window 1 ++ window 2)⟩
    let b : Binding := ⟨⟨4⟩, .ldtoken, ldtokenName, 6, true⟩
    let r' : Resolver := ⟨catalog, s', .standard⟩
    s.IncludedIn s' ∧ (Resolver.new catalog s).resolveOne g = .bound b ∧
      (∃ p ≤ 6, r'.resolveOne g = .bound { b with position := p }) ∧
      r'.resolveOne g = .bound { b with position := 0 } := by
  intro resolveField accessor window records records' s s' g b r'
  have hincluded : s.IncludedIn s' :=
    Store.includedIn_of_build (Store.ofRecordSet_eq_ok_iff.mpr rfl)
      (Store.ofRecordSet_eq_ok_iff.mpr rfl) (List.subset_cons_self _ records)
  have hb : (Resolver.new catalog s).resolveOne g = .bound b := by
    decide
  have hb' : r'.resolveOne g = .bound { b with position := 0 } := by
    decide
  refine ⟨hincluded, hb, ?_, hb'⟩
  refine (resolveOne_kept .standard hincluded g b hb).resolve_right fun h => ?_
  have hrejected := hb'.symm.trans h.1
  simp at hrejected

/-- An additional record can withdraw a binding. The helper reads the top of the
stack twice, once through an accessor that is not known at first. -/
theorem resolveOne_withdrawn :
    ¬ ∀ (records records' : List Record) (s s' : Store) (config : Config)
      (g : Handler) (b : Binding), Store.build records = .ok s →
        Store.build records' = .ok s' → records ⊆ records' →
        (Resolver.mk catalog s config).resolveOne g = .bound b →
        ∃ b', (Resolver.mk catalog s' config).resolveOne g = .bound b' ∧
          b'.opcode = b.opcode := by
  intro hclaim
  let peek (row : UInt32) : MemberRecord :=
    ⟨.ofParts Token.memberTable row, "Stack", Inspection.peekName,
      ⟨some Inspection.objectName, []⟩⟩
  let access (row : UInt32) : Body :=
    [⟨0, .ldarg0, .none⟩, ⟨1, .ldfld, .none⟩,
      ⟨6, .callvirt, .token (peek row).token⟩]
  let helper : MethodRecord :=
    ⟨.ofParts Token.methodTable 1, "", none, ⟨some Inspection.objectName, []⟩,
      some (access 1 ++ access 2)⟩
  let records : List Record := [.method helper, .member (peek 1)]
  let records' : List Record := .member (peek 2) :: records
  let s : Store := ⟨.ofList records, by decide⟩
  let s' : Store := ⟨.ofList records', by decide⟩
  let g : Handler := ⟨⟨2⟩, some [⟨0, .ldarg0, .none⟩,
    ⟨1, .callvirt, .token helper.token⟩, ⟨6, .stloc0, .none⟩,
    ⟨7, .ldarg0, .none⟩, ⟨8, .ldloc0, .none⟩, ⟨9, .callvirt, .none⟩,
    ⟨14, .callvirt, .none⟩, ⟨19, .ret, .none⟩]⟩
  have hbound : (Resolver.mk catalog s .standard).resolveOne g =
      .bound ⟨⟨2⟩, .dup, dupName, 0, true⟩ := by
    decide
  have hrejected : (Resolver.mk catalog s' .standard).resolveOne g =
      .unresolved (.rejected [dupName]) := by
    decide
  obtain ⟨b', hb', -⟩ := hclaim records records' s s' .standard g _
    (Store.ofRecordSet_eq_ok_iff.mpr rfl) (Store.ofRecordSet_eq_ok_iff.mpr rfl)
    (List.subset_cons_self _ records) hbound
  simp [hrejected] at hb'

end Builtin

end HandlerRecognition
