import HandlerRecognition.Proofs.Resolution.Specification

/-!
# The built-in templates are unambiguous

The bound templates of the built-in catalog clash pairwise, except for two that
have the same shape: the templates of `ldnull` and of `ldc.i4.0`. Which of these
two is meant is up to their verifiers, and a wrapper has only one field, so not
both of them hold. Hence at most one built-in template is located in a body,
whatever the metadata, and no handler is ambiguous.
-/

namespace HandlerRecognition

namespace Inspection

theorem wrapsOnly_iff {valueName : String} {wrapper : TypeRecord} :
    wrapsOnly valueName wrapper = true ↔
      ∃ field, wrapper.fields = [field] ∧ field.typeName = valueName := by
  rw [wrapsOnly]
  constructor
  · intro h
    split at h
    · exact ⟨_, ‹_›, beq_iff_eq.mp h⟩
    · simp at h
  · intro h
    obtain ⟨field, hfields, hname⟩ := h
    rw [hfields]
    exact beq_iff_eq.mpr hname

theorem wrapsOnly_unique {wrapper : TypeRecord} {valueName valueName' : String}
    (h : wrapsOnly valueName wrapper = true)
    (h' : wrapsOnly valueName' wrapper = true) : valueName = valueName' := by
  obtain ⟨field, hfields, hname⟩ := wrapsOnly_iff.mp h
  obtain ⟨field', hfields', hname'⟩ := wrapsOnly_iff.mp h'
  have hfield : field = field' :=
    List.singleton_inj.mp (hfields.symm.trans hfields')
  rw [← hname, ← hname', hfield]

/-- A site constructs a wrapper of one type of values at most. -/
theorem constructsWrapper_unique {s : Site} {valueName valueName' : String}
    (h : constructsWrapper s valueName = true)
    (h' : constructsWrapper s valueName' = true) : valueName = valueName' := by
  rw [constructsWrapper] at h h'
  cases htype : s.constructedType? 1 with
  | none => simp [htype] at h
  | some wrapper =>
      rw [htype, Option.any_some, Bool.and_eq_true] at h h'
      exact wrapsOnly_unique h.1 h'.1

end Inspection

/-- A list in which all pairs are one and the same pair has at most two
members. -/
theorem eq_pair_of_pairwise {α : Type} {a b : α} (hne : a ≠ b) {l : List α}
    (h : l.Pairwise fun x y => x = a ∧ y = b) :
    l = [] ∨ (∃ x, l = [x]) ∨ l = [a, b] := by
  match l with
  | [] => exact Or.inl rfl
  | [x] => exact Or.inr (Or.inl ⟨x, rfl⟩)
  | [x, y] =>
      obtain ⟨rfl, rfl⟩ : x = a ∧ y = b := List.rel_of_pairwise_cons h (by simp)
      exact Or.inr (Or.inr rfl)
  | x :: y :: z :: rest =>
      have hy : y = b := (List.rel_of_pairwise_cons h (by simp)).2
      have hy' : y = a := (List.rel_of_pairwise_cons h.of_cons List.mem_cons_self).1
      exact absurd (hy'.symm.trans hy) hne

namespace Builtin

/-- All shapes but two clash. -/
theorem pairwise_clashes :
    catalog.bound.Pairwise fun t t' =>
      t.clashes t' = true ∨ (t = ldnull ∧ t' = ldcI4Zero) := by
  decide

/-- A body has the shapes of at most one bound template, except that the shapes
of `ldnull` and of `ldc.i4.0` are the same. -/
theorem pairwise_fitsSomewhere (body : Body) :
    catalog.bound.Pairwise fun t t' => t.fitsSomewhere body = true →
      t'.fitsSomewhere body = true → t = ldnull ∧ t' = ldcI4Zero := by
  refine pairwise_clashes.imp fun {t t'} h hfits hfits' => ?_
  rcases h with hclashes | hpair
  · simp [Template.not_fitsSomewhere_of_clashes hclashes hfits] at hfits'
  · exact hpair

theorem shaped_cases (body : Body) :
    catalog.shaped body = [] ∨ (∃ t, catalog.shaped body = [t]) ∨
      catalog.shaped body = [ldnull, ldcI4Zero] := by
  refine eq_pair_of_pairwise (by decide) ?_
  have hsublist := (pairwise_fitsSomewhere body).sublist
    (List.filter_sublist (p := fun t => t.fitsSomewhere body))
  refine hsublist.imp_of_mem fun {t t'} ht ht' h => ?_
  exact h (List.mem_filter.mp ht).2 (List.mem_filter.mp ht').2

theorem not_verifies_both {env : Environment} {body : Body} {p : Nat}
    (h : env.verifies ldnull body p = true) :
    env.verifies ldcI4Zero body p = false := by
  rw [Bool.eq_false_iff]
  intro h'
  have hname : Inspection.objectName = Inspection.int32Name :=
    Inspection.constructsWrapper_unique h h'
  simp [Inspection.objectName, Inspection.int32Name] at hname

/-- At most one built-in template is located in a body. -/
theorem length_located_le (env : Environment) (body : Body) :
    (catalog.located env.locate? body).length ≤ 1 := by
  rw [Environment.locate?_eq]
  have hsublist := catalog.located_sublist_shaped env.verifies body
  rcases shaped_cases body with hshaped | ⟨t, hshaped⟩ | hshaped
  · rw [hshaped] at hsublist
    exact Nat.le_trans hsublist.length_le (Nat.zero_le 1)
  · rw [hshaped] at hsublist
    exact hsublist.length_le
  · by_contra hlength
    rw [hshaped] at hsublist
    have hboth : catalog.located (Matcher.locate? env.verifies) body =
        [ldnull, ldcI4Zero] := by
      refine hsublist.eq_of_length_le ?_
      rw [List.length_cons, List.length_singleton]
      omega
    -- Both are tried at the first instruction only, so the verifiers meet there.
    have hverifies (t : Template) (ht : t ∈ [ldnull, ldcI4Zero])
        (hanchor : t.anchor = .start) : env.verifies t body 0 = true := by
      rw [← hboth] at ht
      obtain ⟨p, hp⟩ := Option.isSome_iff_exists.mp (List.mem_filter.mp ht).2
      obtain rfl := Matcher.eq_zero_of_locate? hanchor hp
      exact (Matcher.of_locate?_eq_some hp).2.2
    have hobject := hverifies ldnull (by simp) rfl
    have hinteger := hverifies ldcI4Zero (by simp) rfl
    simp [not_verifies_both hobject] at hinteger

theorem isVerified_and_anchor {t : Template} (ht : t ∈ catalog.bound) :
    t.isVerified = true ∧ (t = ldtoken ∨ t.anchor = .start) := by
  have hall : ∀ t ∈ catalog.bound,
      t.isVerified = true ∧ (t = ldtoken ∨ t.anchor = .start) := by
    decide
  exact hall t ht

section Follows

variable {env : Environment} {id : HandlerId} {body : Body} {outcome : Outcome}

theorem ne_ambiguous_of_follows
    (h : Outcome.Follows catalog env.locate? id body outcome)
    (opcodes : List Opcode) : outcome ≠ .ambiguous opcodes := by
  intro houtcome
  obtain ⟨htwo, rfl⟩ := (h.ambiguous opcodes).mp houtcome
  have htargets := catalog.length_locatedTargets_le env.locate? body
  have hone := length_located_le env body
  omega

theorem rejected_of_follows
    (h : Outcome.Follows catalog env.locate? id body outcome)
    {names : List String} (houtcome : outcome = .unresolved (.rejected names)) :
    (∃ name, names = [name]) ∨ names = [ldnullName, ldcI4ZeroName] := by
  obtain ⟨-, hne, rfl⟩ := (h.rejected names).mp houtcome
  rcases shaped_cases body with hshaped | ⟨t, hshaped⟩ | hshaped
  · simp [hshaped] at hne
  · rw [hshaped]
    exact Or.inl ⟨t.name, rfl⟩
  · rw [hshaped]
    exact Or.inr rfl

theorem bound_of_follows
    (h : Outcome.Follows catalog env.locate? id body outcome)
    {b : Binding} (houtcome : outcome = .bound b) :
    b.isVerified = true ∧ (b.template = ldtokenName ∨ b.position = 0) := by
  obtain ⟨t, rest, hcons, -, hposition, -, hname, hverified⟩ :=
    (h.bound b).mp houtcome
  have hlocated : t ∈ catalog.located env.locate? body := by
    rw [hcons]
    exact List.mem_cons_self
  obtain ⟨hisVerified, htemplate | hanchor⟩ :=
    isVerified_and_anchor (List.mem_filter.mp hlocated).1
  · refine ⟨hverified.trans hisVerified, Or.inl ?_⟩
    rw [hname, htemplate]
    rfl
  · rw [Environment.locate?_eq] at hposition
    exact ⟨hverified.trans hisVerified,
      Or.inr (Matcher.eq_zero_of_locate? hanchor hposition)⟩

end Follows

/-- No handler is ambiguous under the built-in templates. At most one of them is
located in a body, and the shapes exclude each other, except that those of
`ldnull` and of `ldc.i4.0` are the same. Hence a rejected handler has one name,
or the names of these two. A binding is verified, and is to the first
instruction unless it is by the template of `ldtoken`. -/
theorem resolveOne_unambiguous (s : Store) (config : Config) (h : Handler) :
    let r : Resolver := ⟨catalog, s, config⟩
    (∀ body, (catalog.located r.environment.locate? body).length ≤ 1) ∧
      (∀ body, catalog.bound.Pairwise fun t t' => t.fitsSomewhere body = true →
        t'.fitsSomewhere body = true → t = ldnull ∧ t' = ldcI4Zero) ∧
      (∀ body, ldnull.fitsSomewhere body = ldcI4Zero.fitsSomewhere body) ∧
      (∀ opcodes, r.resolveOne h ≠ .ambiguous opcodes) ∧
      (∀ names, r.resolveOne h = .unresolved (.rejected names) →
        (∃ name, names = [name]) ∨ names = [ldnullName, ldcI4ZeroName]) ∧
      ∀ b, r.resolveOne h = .bound b →
        b.isVerified = true ∧ (b.template = ldtokenName ∨ b.position = 0) := by
  intro r
  refine ⟨length_located_le r.environment, pairwise_fitsSomewhere,
    fun _ => rfl, ?_⟩
  rcases (r.follows_locate? h).cases with houtcome | houtcome | ⟨body, hbody⟩
  · simp [houtcome]
  · simp [houtcome]
  · exact ⟨ne_ambiguous_of_follows hbody, fun _ => rejected_of_follows hbody,
      fun _ => bound_of_follows hbody⟩

/-- Where nothing is known about the wrapper, both of the templates with the
same shape are refused. -/
example :
    (Resolver.new catalog .empty).resolveOne ⟨⟨3⟩, some [⟨0, .ldarg0, .none⟩,
        ⟨1, .newobj, .none⟩, ⟨6, .callvirt, .none⟩, ⟨11, .ret, .none⟩]⟩ =
      .unresolved (.rejected [ldnullName, ldcI4ZeroName]) := by
  decide

end Builtin

end HandlerRecognition
