import HandlerRecognition.Proofs.Resolution.Content
import HandlerRecognition.Proofs.Resolution.Specification

/-!
# Comparing outcomes

What is located in a body leaves exactly one outcome for it
(`Outcome.Follows.unique`), so two resolvers that locate the same templates agree,
on single handlers and on batches. Where more is located, the outcome may only
grow: `Outcome.Grows` says that every opcode that was named is still named, so a
binding to one opcode never turns into a binding to another.
-/

namespace HandlerRecognition

namespace Catalog

variable {c : Catalog} {locate? : Template → Body → Option Nat} {body : Body}
  {t : Template}

/-- A located template is in the catalog, and its opcode is among the
targets. -/
theorem of_mem_located (h : t ∈ c.located locate? body) :
    t ∈ c.templates ∧ (locate? t body).isSome ∧
      ∃ target ∈ c.locatedTargets locate? body, t.target? = some target := by
  obtain ⟨hbound, hsome⟩ := List.mem_filter.mp h
  obtain ⟨target, htarget⟩ :=
    Option.isSome_iff_exists.mp (isSome_target?_of_mem_bound hbound)
  refine ⟨(List.mem_filter.mp hbound).1, hsome, target, ?_, htarget⟩
  exact Opcode.mem_sorted.mpr (List.mem_filterMap.mpr ⟨t, h, htarget⟩)

/-- Where there is only one target, every located template has it. -/
theorem target?_of_locatedTargets {target : Opcode}
    (ht : t ∈ c.located locate? body)
    (htargets : c.locatedTargets locate? body = [target]) :
    t.target? = some target := by
  obtain ⟨-, -, target', hmem, htarget⟩ := of_mem_located ht
  rw [htargets, List.mem_singleton] at hmem
  rw [htarget, hmem]

end Catalog

namespace Outcome

/-- Whether an outcome is a binding to an opcode or an ambiguity with it. -/
def Names (o : Outcome) (target : Opcode) : Prop :=
  (∃ b, o = .bound b ∧ b.opcode = target) ∨
    ∃ opcodes, o = .ambiguous opcodes ∧ target ∈ opcodes

/-- What may become of an outcome when more templates are located. -/
structure Grows (o o' : Outcome) : Prop where
  bound (b : Binding) : o = .bound b → o'.Names b.opcode
  ambiguous (opcodes : List Opcode) : o = .ambiguous opcodes →
    ∃ opcodes', o' = .ambiguous opcodes' ∧ opcodes ⊆ opcodes'

namespace Follows

variable {c c' : Catalog} {locate? locate'? : Template → Body → Option Nat}
  {id : HandlerId} {body : Body} {o o' : Outcome}

/-- The four outcomes of a body that is not empty, with what is located in each
case. -/
theorem four_cases (h : Follows c locate? id body o) :
    (2 ≤ (c.locatedTargets locate? body).length ∧
      o = .ambiguous (c.locatedTargets locate? body)) ∨
    (∃ t rest target position, c.located locate? body = t :: rest ∧
      c.locatedTargets locate? body = [target] ∧
      locate? t body = some position ∧
      o = .bound ⟨id, target, t.name, position, t.isVerified⟩) ∨
    (c.located locate? body = [] ∧ c.shaped body ≠ [] ∧
      o = .unresolved (.rejected ((c.shaped body).map Template.name))) ∨
    (c.located locate? body = [] ∧ c.shaped body = [] ∧
      o = .unresolved .noMatch) := by
  cases hlocated : c.located locate? body with
  | nil =>
      by_cases hshaped : c.shaped body = []
      · have ho := h.noMatch.mpr ⟨hlocated, hshaped⟩
        exact Or.inr (Or.inr (Or.inr ⟨rfl, hshaped, ho⟩))
      · have hnames : (c.shaped body).map Template.name ≠ [] := by
          simpa using hshaped
        have ho := (h.rejected _).mpr ⟨hlocated, hnames, rfl⟩
        exact Or.inr (Or.inr (Or.inl ⟨rfl, hshaped, ho⟩))
  | cons t rest =>
      by_cases htwo : 2 ≤ (c.locatedTargets locate? body).length
      · exact Or.inl ⟨htwo, (h.ambiguous _).mpr ⟨htwo, rfl⟩⟩
      · have hmem : t ∈ c.located locate? body := by
          rw [hlocated]
          exact List.mem_cons_self
        obtain ⟨-, hsome, target, htarget, -⟩ := Catalog.of_mem_located hmem
        obtain ⟨position, hposition⟩ := Option.isSome_iff_exists.mp hsome
        have htargets : c.locatedTargets locate? body = [target] :=
          eq_singleton_of_mem htarget (Nat.lt_of_not_le htwo)
        have ho := (h.bound ⟨id, target, t.name, position, t.isVerified⟩).mpr
          ⟨t, rest, hlocated, htargets, hposition, rfl, rfl, rfl⟩
        exact Or.inr (Or.inl
          ⟨t, rest, target, position, rfl, htargets, hposition, ho⟩)

theorem unique (h : Follows c locate? id body o)
    (h' : Follows c locate? id body o') : o = o' := by
  rcases h.four_cases with ⟨htwo, rfl⟩ |
    ⟨t, rest, target, position, hlocated, htargets, hposition, rfl⟩ |
    ⟨hlocated, hshaped, rfl⟩ | ⟨hlocated, hshaped, rfl⟩
  · exact ((h'.ambiguous _).mpr ⟨htwo, rfl⟩).symm
  · exact ((h'.bound _).mpr
      ⟨t, rest, hlocated, htargets, hposition, rfl, rfl, rfl⟩).symm
  · have hnames : (c.shaped body).map Template.name ≠ [] := by
      simpa using hshaped
    exact ((h'.rejected _).mpr ⟨hlocated, hnames, rfl⟩).symm
  · exact (h'.noMatch.mpr ⟨hlocated, hshaped⟩).symm

/-- An outcome names the targets of the located templates. -/
theorem names_iff (h : Follows c locate? id body o) {target : Opcode} :
    o.Names target ↔ target ∈ c.locatedTargets locate? body := by
  rcases h.four_cases with ⟨-, rfl⟩ | ⟨t, rest, target', p, -, htargets, -, rfl⟩ |
    ⟨hlocated, -, rfl⟩ | ⟨hlocated, -, rfl⟩
  · simp [Names]
  · simp [Names, htargets, eq_comm]
  · simp [Names, locatedTargets_of_located_eq_nil hlocated]
  · simp [Names, locatedTargets_of_located_eq_nil hlocated]

theorem grows (h : Follows c locate? id body o)
    (h' : Follows c' locate'? id body o')
    (hlocated : c.located locate? body ⊆ c'.located locate'? body) :
    o.Grows o' := by
  have htargets : c.locatedTargets locate? body ⊆
      c'.locatedTargets locate'? body := by
    intro target htarget
    rw [Catalog.locatedTargets, Opcode.mem_sorted, List.mem_filterMap]
      at htarget ⊢
    obtain ⟨t, ht, heq⟩ := htarget
    exact ⟨t, hlocated ht, heq⟩
  refine ⟨fun b hb => ?_, fun opcodes ho => ?_⟩
  · have hnamed : o.Names b.opcode := Or.inl ⟨b, hb, rfl⟩
    exact h'.names_iff.mpr (htargets (h.names_iff.mp hnamed))
  · obtain ⟨htwo, rfl⟩ := (h.ambiguous opcodes).mp ho
    have hsubperm := List.Nodup.subperm (Opcode.nodup_sorted _) htargets
    have htwo' := Nat.le_trans htwo hsubperm.length_le
    exact ⟨_, (h'.ambiguous _).mpr ⟨htwo', rfl⟩, htargets⟩

end Follows

end Outcome

namespace Handler.Follows

variable {c c' : Catalog} {locate? locate'? : Template → Body → Option Nat}
  {h : Handler} {o o' : Outcome}

/-- Two outcomes of a handler without instructions are the same, and any others
are outcomes of one body. -/
theorem both (hf : h.Follows c locate? o) (hf' : h.Follows c' locate'? o') :
    (o = o' ∧ (o = .unresolved .missingBody ∨ o = .unresolved .emptyBody)) ∨
      ∃ body, h.body? = some body ∧ Outcome.Follows c locate? h.id body o ∧
        Outcome.Follows c' locate'? h.id body o' := by
  unfold Handler.Follows at hf hf'
  cases hbody : h.body? with
  | none =>
      simp only [hbody] at hf hf'
      exact Or.inl ⟨hf.trans hf'.symm, Or.inl hf⟩
  | some body =>
      cases body with
      | nil =>
          simp only [hbody] at hf hf'
          exact Or.inl ⟨hf.trans hf'.symm, Or.inr hf⟩
      | cons i is =>
          simp only [hbody] at hf hf'
          exact Or.inr ⟨i :: is, rfl, hf, hf'⟩

theorem unique (hf : h.Follows c locate? o) (hf' : h.Follows c locate? o') :
    o = o' := by
  rcases hf.both hf' with ⟨heq, -⟩ | ⟨body, -, hbody, hbody'⟩
  · exact heq
  · exact hbody.unique hbody'

theorem grows (hf : h.Follows c locate? o) (hf' : h.Follows c' locate'? o')
    (hlocated : ∀ body,
      c.located locate? body ⊆ c'.located locate'? body) : o.Grows o' := by
  rcases hf.both hf' with ⟨rfl, ho | ho⟩ | ⟨body, -, hbody, hbody'⟩
  · exact ⟨by simp [ho], by simp [ho]⟩
  · exact ⟨by simp [ho], by simp [ho]⟩
  · exact hbody.grows hbody' (hlocated body)

end Handler.Follows

namespace Environment

variable {env env' : Environment}

theorem locate?_congr (h : env.accepts = env'.accepts) :
    env.locate? = env'.locate? := by
  funext t body
  rw [locate?, locate?, h]

/-- Where every acceptance is kept, so is every template that is located. -/
theorem isSome_locate?_mono {t : Template} {body : Body}
    (h : ∀ p, env.accepts t body p = true → env'.accepts t body p = true)
    (hlocate : (env.locate? t body).isSome) :
    (env'.locate? t body).isSome := by
  rw [locate?, List.find?_isSome] at hlocate ⊢
  obtain ⟨p, hp, haccepts⟩ := hlocate
  exact ⟨p, hp, h p haccepts⟩

end Environment

theorem Resolution.Separate.ext {r r' : Resolution} (hr : r.Separate)
    (hr' : r'.Separate) (h : ∀ id, r.outcome? id = r'.outcome? id) :
    r = r' := by
  have hbound : r.boundTable = r'.boundTable :=
    Table.ext_find? fun id => by rw [hr.bound, hr'.bound, h]
  have hunresolved : r.unresolvedTable = r'.unresolvedTable :=
    Table.ext_find? fun id => by rw [hr.unresolved, hr'.unresolved, h]
  have hambiguous : r.ambiguousTable = r'.ambiguousTable :=
    Table.ext_find? fun id => by rw [hr.ambiguous, hr'.ambiguous, h]
  obtain ⟨bound, unresolved, ambiguous⟩ := r
  obtain ⟨bound', unresolved', ambiguous'⟩ := r'
  simp only at hbound hunresolved hambiguous
  rw [hbound, hunresolved, hambiguous]

namespace Resolver

variable {r r' : Resolver}

/-- Batches have the same resolution if the outcomes agree under every
identifier. -/
theorem resolve_eq_of_outcomes {handlers handlers' : List Handler}
    (h : ∀ id, ((Batch.ofHandlers handlers).find? id).map r.outcomeOf =
      ((Batch.ofHandlers handlers').find? id).map r'.outcomeOf) :
    r.resolve handlers = r'.resolve handlers' := by
  refine (r.separate_resolve handlers).ext (r'.separate_resolve handlers') ?_
  intro id
  rw [outcome?_resolve, outcome?_resolve, h]

theorem resolve_congr (h : ∀ g, r.resolveOne g = r'.resolveOne g)
    (handlers : List Handler) : r.resolve handlers = r'.resolve handlers := by
  refine resolve_eq_of_outcomes fun id => ?_
  have houtcome : r.outcomeOf = r'.outcomeOf := by
    funext s
    rw [outcomeOf, outcomeOf, h]
  rw [houtcome]

/-- Resolvers with the same verdicts on the same templates agree. -/
theorem resolveOne_congr (hcatalog : r.catalog = r'.catalog)
    (haccepts : r.environment.accepts = r'.environment.accepts)
    (h : Handler) : r.resolveOne h = r'.resolveOne h := by
  have hfollows := r.follows_locate? h
  rw [hcatalog, Environment.locate?_congr haccepts] at hfollows
  exact hfollows.unique (r'.follows_locate? h)

/-- Catalogs in which delegations find the same templates accept alike. -/
theorem accepts_eq_of_catalogs {c c' : Catalog} (h : c.ExtendedBy c')
    (h' : c'.ExtendedBy c) (s : Store) (config : Config) :
    (Resolver.mk c s config).environment.accepts =
      (Resolver.mk c' s config).environment.accepts := by
  refine Environment.accepts_eq_of_extendedBy ?_ h h' ?_
  · rfl
  · exact fun _ => Iff.rfl

/-- Where every template and every acceptance is kept, outcomes grow. -/
theorem resolveOne_grows (hbound : r.catalog.bound ⊆ r'.catalog.bound)
    (henv : r.environment.ExtendedBy r'.environment) (h : Handler) :
    (r.resolveOne h).Grows (r'.resolveOne h) := by
  refine (r.follows_locate? h).grows (r'.follows_locate? h) fun body t ht => ?_
  obtain ⟨ht, hlocate⟩ := List.mem_filter.mp ht
  exact List.mem_filter.mpr
    ⟨hbound ht, Environment.isSome_locate?_mono (fun _ => henv.accepts) hlocate⟩

end Resolver

end HandlerRecognition
