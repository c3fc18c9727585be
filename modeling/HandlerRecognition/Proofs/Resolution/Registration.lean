import HandlerRecognition.Proofs.Resolution.Comparison

/-!
# Independence of the order of registration

A list of templates that builds a catalog also builds one in any other order, and
names lead to the same templates in both, so the two catalogs locate the same
templates in every body. What is left of the order is seen in two places: refused
templates are listed in it, and of several located templates of one opcode the
first one makes the binding. `Outcome.Rearranged` says that there is nothing
else.
-/

namespace HandlerRecognition

/-- What another order of registration may make of the outcome of a handler. -/
inductive Outcome.Rearranged (env : Environment) (g : Handler) :
    Outcome → Outcome → Prop
  | same (o : Outcome) : Rearranged env g o o
  /-- The refused templates are listed in another order. -/
  | rejected {names names' : List String} (h : names.Perm names') :
    Rearranged env g (.unresolved (.rejected names))
      (.unresolved (.rejected names'))
  /-- Different templates of the catalog, both for the same opcode, are located
  in the body, and each of them makes one of the bindings. -/
  | bound {body : Body} {t t' : Template} {target : Opcode}
    {position position' : Nat} (hbody : g.body? = some body)
    (ht : t ∈ env.catalog.templates) (ht' : t' ∈ env.catalog.templates)
    (hne : t ≠ t') (htarget : t.target? = some target)
    (htarget' : t'.target? = some target)
    (hposition : env.locate? t body = some position)
    (hposition' : env.locate? t' body = some position') :
    Rearranged env g (.bound ⟨g.id, target, t.name, position, t.isVerified⟩)
      (.bound ⟨g.id, target, t'.name, position', t'.isVerified⟩)

namespace Catalog

variable {c c' : Catalog}

theorem bound_perm (h : c.templates.Perm c'.templates) :
    c.bound.Perm c'.bound :=
  h.filter _

theorem located_perm (h : c.templates.Perm c'.templates)
    (locate? : Template → Body → Option Nat) (body : Body) :
    (c.located locate? body).Perm (c'.located locate? body) :=
  (bound_perm h).filter _

theorem shaped_perm (h : c.templates.Perm c'.templates) (body : Body) :
    (c.shaped body).Perm (c'.shaped body) :=
  (bound_perm h).filter _

theorem locatedTargets_perm (h : c.templates.Perm c'.templates)
    (locate? : Template → Body → Option Nat) (body : Body) :
    c.locatedTargets locate? body = c'.locatedTargets locate? body :=
  Opcode.sorted_congr fun _ =>
    ((located_perm h locate? body).filterMap Template.target?).mem_iff

theorem extendedBy_of_perm (h : c.templates.Perm c'.templates) :
    c.ExtendedBy c' := by
  intro d u hu
  rw [← find?_perm h]
  exact hu

end Catalog

theorem Outcome.Follows.rearranged {env : Environment} {c' : Catalog}
    {g : Handler} {body : Body} {o o' : Outcome}
    (hperm : env.catalog.templates.Perm c'.templates)
    (hbody : g.body? = some body)
    (h : Outcome.Follows env.catalog env.locate? g.id body o)
    (h' : Outcome.Follows c' env.locate? g.id body o') :
    Outcome.Rearranged env g o o' := by
  have hlocated := Catalog.located_perm hperm env.locate? body
  have hshaped := Catalog.shaped_perm hperm body
  have htargets := Catalog.locatedTargets_perm hperm env.locate? body
  rcases h.four_cases with ⟨htwo, rfl⟩ |
    ⟨t, rest, target, position, hcons, hone, hposition, rfl⟩ |
    ⟨hnil, hne, rfl⟩ | ⟨hnil, hempty, rfl⟩
  · obtain rfl := (h'.ambiguous _).mpr ⟨htwo, htargets⟩
    exact .same _
  · obtain ⟨t', rest', hcons'⟩ :
        ∃ t' rest', c'.located env.locate? body = t' :: rest' := by
      refine List.exists_cons_of_ne_nil fun hnil => ?_
      rw [hcons, hnil] at hlocated
      simp at hlocated
    have ht : t ∈ env.catalog.located env.locate? body := by simp [hcons]
    have ht' : t' ∈ env.catalog.located env.locate? body := by
      simp [hlocated.mem_iff, hcons']
    obtain ⟨hmem', hsome, -⟩ := Catalog.of_mem_located ht'
    obtain ⟨position', hposition'⟩ := Option.isSome_iff_exists.mp hsome
    obtain rfl :=
      (h'.bound ⟨g.id, target, t'.name, position', t'.isVerified⟩).mpr
        ⟨t', rest', hcons', htargets ▸ hone, hposition', rfl, rfl, rfl⟩
    by_cases heq : t = t'
    · subst heq
      obtain rfl := Option.some.inj (hposition.symm.trans hposition')
      exact .same _
    · exact .bound hbody (Catalog.of_mem_located ht).1 hmem' heq
        (Catalog.target?_of_locatedTargets ht hone)
        (Catalog.target?_of_locatedTargets ht' hone) hposition hposition'
  · have hnil' : c'.located env.locate? body = [] :=
      List.Perm.eq_nil (hnil ▸ hlocated.symm)
    have hne' : (c'.shaped body).map Template.name ≠ [] := by
      intro hnames
      rw [List.map_eq_nil_iff.mp hnames] at hshaped
      exact hne hshaped.eq_nil
    obtain rfl := (h'.rejected _).mpr ⟨hnil', hne', rfl⟩
    exact .rejected (hshaped.map Template.name)
  · have hnil' : c'.located env.locate? body = [] :=
      List.Perm.eq_nil (hnil ▸ hlocated.symm)
    have hempty' : c'.shaped body = [] :=
      List.Perm.eq_nil (hempty ▸ hshaped.symm)
    obtain rfl := h'.noMatch.mpr ⟨hnil', hempty'⟩
    exact .same _

namespace Resolver

variable {c c' : Catalog}

/-- Templates in another order build a catalog as well. It locates the same
templates, and outcomes differ at most in the order of refused templates and in
which of several located templates of one opcode makes the binding. -/
theorem resolveOne_rearranged {ts ts' : List Template} (hperm : ts.Perm ts')
    (hc : Catalog.build ts = .ok c) :
    ∃ c', Catalog.build ts' = .ok c' ∧
      ∀ (s : Store) (config : Config) (g : Handler),
        (Resolver.mk c' s config).environment.locate? =
            (Resolver.mk c s config).environment.locate? ∧
          Outcome.Rearranged (Resolver.mk c s config).environment g
            ((Resolver.mk c s config).resolveOne g)
            ((Resolver.mk c' s config).resolveOne g) := by
  obtain ⟨c', hc'⟩ := Catalog.build_perm hperm hc
  obtain rfl := Catalog.build_eq_ok_iff.mp hc
  obtain rfl := Catalog.build_eq_ok_iff.mp hc'
  refine ⟨c', hc', fun s config g => ?_⟩
  have hlocate := Environment.locate?_congr (accepts_eq_of_catalogs
    (Catalog.extendedBy_of_perm hperm) (Catalog.extendedBy_of_perm hperm.symm)
    s config)
  refine ⟨hlocate.symm, ?_⟩
  have hfollows := (Resolver.mk c s config).follows_locate? g
  have hfollows' := (Resolver.mk c' s config).follows_locate? g
  rw [← hlocate] at hfollows'
  rcases hfollows.both hfollows' with ⟨heq, -⟩ | ⟨body, hbody, h, h'⟩
  · rw [heq]
    exact .same _
  · exact h.rearranged hperm hbody h'

/-- Two templates for one opcode, both of which are located. The binding is by
the one that was registered first. -/
theorem resolveOne_rearranged_variants :
    let short := Template.window "Short" (some .pop) [.pop]
    let long := Template.entire "Long" (some .pop) [.pop, .ret]
    let c : Catalog := ⟨[short, long], by decide⟩
    let g : Handler := ⟨⟨7⟩, some [⟨0, .pop, .none⟩, ⟨1, .ret, .none⟩]⟩
    [short, long].Perm [long, short] ∧ Catalog.build [short, long] = .ok c ∧
      (Resolver.new c .empty).resolveOne g =
        .bound ⟨⟨7⟩, .pop, "Short", 0, false⟩ ∧
      ∃ c', Catalog.build [long, short] = .ok c' ∧
        (Resolver.new c' .empty).resolveOne g =
          .bound ⟨⟨7⟩, .pop, "Long", 0, false⟩ ∧
        Outcome.Rearranged (Resolver.new c .empty).environment g
          ((Resolver.new c .empty).resolveOne g)
          ((Resolver.new c' .empty).resolveOne g) := by
  intro short long c g
  have hperm : [short, long].Perm [long, short] := .swap _ _ _
  have hc : Catalog.build [short, long] = .ok c :=
    Catalog.build_eq_ok_iff.mpr rfl
  obtain ⟨c', hc', hall⟩ := resolveOne_rearranged hperm hc
  obtain rfl : c' = ⟨[long, short], by decide⟩ := by
    obtain ⟨templates, sound⟩ := c'
    obtain rfl := Catalog.build_eq_ok_iff.mp hc'
    rfl
  exact ⟨hperm, hc, by decide, _, hc', by decide,
    (hall .empty .standard g).2⟩

end Resolver

end HandlerRecognition
