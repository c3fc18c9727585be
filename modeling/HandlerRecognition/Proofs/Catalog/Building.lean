import HandlerRecognition.Proofs.Catalog.Index

/-!
# What is found in a catalog with an index

Lookups through an index are the same as searches of the list of templates, and
the templates of all targets together are those that can bind a handler
(`IndexedCatalog.Faithful`). So a catalog that is built in steps is found to have
what was added, in this order, and it gives the same answers as a `Catalog`.
-/

namespace HandlerRecognition

namespace Catalog

/-- The members with one of several keys, listed key by key. -/
theorem perm_flatMap_filter {α κ : Type} [DecidableEq κ] (key? : α → Option κ)
    {keys : List κ} (h : keys.Nodup) (l : List α) :
    (keys.flatMap fun k => l.filter fun a => key? a = some k).Perm
      (l.filter fun a => ∃ k ∈ keys, key? a = some k) := by
  induction keys with
  | nil => simp
  | cons k keys ih =>
      obtain ⟨hk, hkeys⟩ := List.nodup_cons.mp h
      let all := l.filter fun a => ∃ k' ∈ k :: keys, key? a = some k'
      have hfirst : (all.filter fun a => key? a = some k) =
          l.filter fun a => key? a = some k := by
        rw [List.filter_filter]
        refine List.filter_congr fun a _ => ?_
        simp +contextual
      have hothers : (all.filter fun a => !decide (key? a = some k)) =
          l.filter fun a => ∃ k' ∈ keys, key? a = some k' := by
        rw [List.filter_filter]
        refine List.filter_congr fun a _ => ?_
        by_cases ha : key? a = some k
        · simp [ha, hk]
        · simp [ha]
      have hsplit := List.filter_append_perm (fun a => key? a = some k) all
      rw [hfirst, hothers] at hsplit
      rw [List.flatMap_cons]
      exact ((ih hkeys).append_left _).trans hsplit

end Catalog

namespace IndexedCatalog

variable {c : IndexedCatalog}

/-- What is found through the index is what is in the list. -/
structure Faithful (c : IndexedCatalog) : Prop where
  nodup_names : (c.templates.map Template.name).Nodup
  find? (name : String) (t : Template) :
    c.find? name = some t ↔ t ∈ c.templates ∧ t.name = name
  bound : c.bound = c.templates.filter fun t => t.target?.isSome
  withTarget (o : Opcode) :
    c.withTarget o = c.templates.filter fun t => t.target? = some o
  mem_targets (o : Opcode) :
    o ∈ c.targets ↔ ∃ t ∈ c.templates, t.target? = some o
  nodup_targets : c.targets.Nodup
  perm : (c.targets.flatMap c.withTarget).Perm c.bound
  isInternal (t : Template) : t.isInternal = true →
    t ∉ c.bound ∧ ∀ o, t ∉ c.withTarget o

theorem bound_eq_filter (c : IndexedCatalog) :
    c.bound = c.templates.filter fun t => t.target?.isSome := by
  refine List.filter_congr fun t _ => ?_
  cases ht : t.target? <;> simp [Template.isInternal, ht]

section Covered

variable (h : c.index.Covers (List.finRange c.templates.length))
include h

theorem find?_eq_some_iff {name : String} {t : Template} :
    c.find? name = some t ↔ t ∈ c.templates ∧ t.name = name := by
  rw [find?, Option.map_eq_some_iff, List.mem_iff_get]
  simp only [h.position?]
  constructor
  · rintro ⟨i, ⟨-, hname⟩, rfl⟩
    exact ⟨⟨i, rfl⟩, hname⟩
  · rintro ⟨⟨i, rfl⟩, hname⟩
    exact ⟨i, ⟨List.mem_finRange i, hname⟩, rfl⟩

theorem withTarget_eq_filter (o : Opcode) :
    c.withTarget o = c.templates.filter fun t => t.target? = some o := by
  have hlist := List.map_get_finRange c.templates
  rw [withTarget, h.positions]
  conv_rhs => rw [← hlist, List.filter_map]
  rfl

theorem mem_targets_iff {o : Opcode} :
    o ∈ c.targets ↔ ∃ t ∈ c.templates, t.target? = some o := by
  rw [targets, Opcode.mem_sorted, h.mem_targets]
  constructor
  · rintro ⟨i, -, ho⟩
    exact ⟨_, List.get_mem _ _, ho⟩
  · rintro ⟨t, ht, ho⟩
    obtain ⟨i, rfl⟩ := List.mem_iff_get.mp ht
    exact ⟨i, List.mem_finRange i, ho⟩

/-- Every template that can bind a handler is listed under its target, as often
as it is in the catalog. -/
theorem perm_flatMap_withTarget :
    (c.targets.flatMap c.withTarget).Perm c.bound := by
  have hall : (c.templates.filter fun t =>
      ∃ o ∈ c.targets, t.target? = some o) = c.bound := by
    rw [bound_eq_filter]
    refine List.filter_congr fun t ht => ?_
    rw [Bool.eq_iff_iff, decide_eq_true_iff, Option.isSome_iff_exists]
    exact exists_congr fun o => and_iff_right_of_imp fun ho =>
      (mem_targets_iff h).mpr ⟨t, ht, ho⟩
  rw [← hall, funext (withTarget_eq_filter h)]
  exact Catalog.perm_flatMap_filter Template.target? (Opcode.nodup_sorted _)
    c.templates

theorem faithful_of_covers (hsound : Catalog.fault? [] c.templates = none) :
    c.Faithful where
  nodup_names := (Catalog.fault?_nil_eq_none_iff.mp hsound).2
  find? _ _ := find?_eq_some_iff h
  bound := bound_eq_filter c
  withTarget := withTarget_eq_filter h
  mem_targets _ := mem_targets_iff h
  nodup_targets := Opcode.nodup_sorted _
  perm := perm_flatMap_withTarget h
  isInternal t ht := by
    have hnone : t.target? = none := Option.isNone_iff_eq_none.mp ht
    simp [bound_eq_filter, withTarget_eq_filter h, hnone]

end Covered

/-- Lookups give the same as in a catalog without an index. -/
structure Agrees (c : IndexedCatalog) (c' : Catalog) : Prop where
  find? (name : String) : c.find? name = c'.find? name
  bound : c.bound = c'.bound
  withTarget (o : Opcode) : c.withTarget o = c'.withTarget o
  targets : c.targets = c'.targets

theorem Faithful.agrees (h : c.Faithful) {c' : Catalog}
    (htemplates : c'.templates = c.templates) : c.Agrees c' := by
  constructor
  case find? =>
      intro name
      refine Option.ext fun t => ?_
      rw [h.find?, Catalog.find?_eq_some_iff, htemplates]
  case bound => rw [IndexedCatalog.bound, Catalog.bound, htemplates]
  case withTarget =>
      intro o
      rw [h.withTarget, Catalog.withTarget, htemplates]
      exact List.filter_congr fun t _ => (beq_eq_decide _ _).symm
  case targets =>
      have hmem (o : Opcode) : o ∈ c.targets ↔ o ∈ c'.targets := by
        rw [h.mem_targets, Catalog.mem_targets, htemplates]
      exact Opcode.sorted_congr fun o =>
        Opcode.mem_sorted.symm.trans ((hmem o).trans Opcode.mem_sorted)

end IndexedCatalog

namespace CatalogBuilder

theorem templates_addAll (b : CatalogBuilder) (additions : List Addition) :
    (b.addAll additions).templates =
      b.templates ++ additions.flatMap Addition.templates := by
  induction additions generalizing b with
  | nil => simp [addAll]
  | cons addition additions ih =>
      rw [List.flatMap_cons, ← List.append_assoc]
      exact ih (b.add addition)

/-- Building fails with the first fault, or leaves behind a faithful catalog. -/
theorem build_cases (b : CatalogBuilder) :
    (∃ fault, Catalog.fault? [] b.templates = some fault ∧
      b.build = .error fault) ∨
    ∃ c, Catalog.fault? [] b.templates = none ∧ b.build = .ok c ∧
      c.templates = b.templates ∧ c.Faithful := by
  rcases Catalog.Index.build_cases b.templates with
    ⟨fault, hfault, hbuild⟩ | ⟨index, hsound, hbuild, hcovers⟩
  · exact Or.inl ⟨fault, hfault, by rw [build, hbuild]⟩
  · exact Or.inr ⟨⟨b.templates, index⟩, hsound, by rw [build, hbuild], rfl,
      IndexedCatalog.faithful_of_covers hcovers hsound⟩

theorem build_eq_error_iff {b : CatalogBuilder} {fault : CatalogFault} :
    b.build = .error fault ↔ Catalog.fault? [] b.templates = some fault := by
  rcases b.build_cases with ⟨found, hfault, hbuild⟩ | ⟨c, hsound, hbuild, -⟩
  · rw [hbuild, hfault, Except.error.injEq, Option.some.injEq]
  · simp [hbuild, hsound]

theorem faithful_of_build {b : CatalogBuilder} {c : IndexedCatalog}
    (h : b.build = .ok c) : c.templates = b.templates ∧ c.Faithful := by
  rcases b.build_cases with
    ⟨fault, -, hbuild⟩ | ⟨c', -, hbuild, htemplates, hfaithful⟩
  · rw [hbuild] at h
    exact absurd h nofun
  · obtain rfl := Except.ok.inj (hbuild.symm.trans h)
    exact ⟨htemplates, hfaithful⟩

/-- With an index and without one, the same lists are refused, and for the same
fault. -/
theorem build_eq_error_iff_build {b : CatalogBuilder} {fault : CatalogFault} :
    b.build = .error fault ↔ Catalog.build b.templates = .error fault := by
  rw [build_eq_error_iff, Catalog.build_eq_error_iff]

theorem agrees_of_build {b : CatalogBuilder} {c : IndexedCatalog}
    {c' : Catalog} (h : b.build = .ok c)
    (h' : Catalog.build b.templates = .ok c') : c.Agrees c' := by
  obtain ⟨htemplates, hfaithful⟩ := faithful_of_build h
  exact hfaithful.agrees
    ((Catalog.build_eq_ok_iff.mp h').trans htemplates.symm)

/-- What is built of templates that are added in any way: the fault of the first
of them that has one, or a catalog in which they are found. -/
theorem build_addAll (additions : List Addition) :
    let ts := additions.flatMap Addition.templates
    let built := (empty.addAll additions).build
    ((∃ fault, built = .error fault) ↔
      (∃ t ∈ ts, t.isEmpty = true) ∨ ¬(ts.map Template.name).Nodup) ∧
    (∀ fault, built = .error fault ↔ Catalog.FirstFault ts fault) ∧
    ∀ c, built = .ok c → c.templates = ts ∧ c.Faithful := by
  intro ts built
  have hts : (empty.addAll additions).templates = ts := templates_addAll _ _
  have herror (fault : CatalogFault) :
      built = .error fault ↔ Catalog.fault? [] ts = some fault := by
    rw [← hts]
    exact build_eq_error_iff
  refine ⟨?_, fun fault => ?_, fun c hc => ?_⟩
  · rw [← Catalog.exists_fault_iff]
    exact exists_congr herror
  · rw [herror, Catalog.firstFault_iff]
  · rw [← hts]
    exact faithful_of_build hc

/-- Two variants for one target and an internal template between them, which is
listed under no target. -/
theorem build_addAll_variants :
    let short := Template.window "Short" (some .pop) [.pop]
    let helper := Template.window "Helper" none [.ldarg0, .ret]
    let long := Template.entire "Long" (some .pop) [.pop, .ret]
    let additions : List Addition := [.single short, .several [helper, long]]
    ∃ c, (empty.addAll additions).build = .ok c ∧
      (c.templates = [short, helper, long] ∧ c.Faithful) ∧
      c.find? "Helper" = some helper ∧ c.withTarget .pop = [short, long] ∧
      c.bound = [short, long] ∧ c.targets = [.pop] := by
  intro short helper long additions
  exact ⟨_, rfl, (build_addAll additions).2.2 _ rfl,
    by decide, by decide, by decide, by decide⟩

/-- A template without a slot is refused for that, even under a name that an
earlier one has. -/
example :
    (empty.addAll [.single (.window "Short" (some .pop) [.pop]),
      .several [.entire "Short" none []], .builtin]).build =
      .error (.noSlots "Short") := rfl

end CatalogBuilder

end HandlerRecognition
