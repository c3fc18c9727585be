import HandlerRecognition.Proofs.Matching.Explicit
import HandlerRecognition.Proofs.Matching.Location
import HandlerRecognition.Proofs.Resolution.Comparison
import HandlerRecognition.Proofs.Resolution.Unambiguous

/-!
# Bindings by built-in templates

The bound templates have different targets, and at most one of them is located
in a body. So a handler is bound to the target of a template exactly if this
template is located (`Builtin.resolveOne_eq_bound_iff`), and no other template
has to be looked at. For a template that lists the opcodes of the whole body,
this is so if the body has these opcodes and the verifier holds at its first
instruction.
-/

namespace HandlerRecognition

namespace Builtin

variable {s : Store} {config : Config} {env : Environment} {id : HandlerId}
  {body : Body} {t : Template} {target : Opcode}

theorem nodup_targets : (catalog.bound.map Template.target?).Nodup := by
  decide

theorem ne_nil_of_locate? {p : Nat} (ht : t ∈ catalog.bound)
    (h : env.locate? t body = some p) : body ≠ [] := by
  rintro rfl
  have hslots : ∀ t ∈ catalog.bound, t.slots[0]?.isSome := by
    decide
  obtain ⟨slot, hslot⟩ := Option.isSome_iff_exists.mp (hslots t ht)
  rw [Environment.locate?_eq] at h
  obtain ⟨i, hi, -⟩ := Template.exists_instruction_of_fitsAt
    (Matcher.of_locate?_eq_some h).2.1 hslot
  simp at hi

/-- Whichever template is located, the handler is bound by it. -/
theorem bound_of_locate? {outcome : Outcome} {p : Nat}
    (hf : Outcome.Follows catalog env.locate? id body outcome)
    (ht : t ∈ catalog.bound) (htarget : t.target? = some target)
    (hlocate : env.locate? t body = some p) :
    outcome = .bound ⟨id, target, t.name, p, t.isVerified⟩ := by
  have hmem : t ∈ catalog.located env.locate? body :=
    List.mem_filter.mpr ⟨ht, by simp [hlocate]⟩
  have hone := length_located_le env body
  have htargets := catalog.length_locatedTargets_le env.locate? body
  obtain ⟨-, -, target', hmem', htarget'⟩ := Catalog.of_mem_located hmem
  obtain rfl : target = target' := Option.some.inj (htarget.symm.trans htarget')
  exact (hf.bound _).mpr ⟨t, [], eq_singleton_of_mem hmem (by omega),
    eq_singleton_of_mem hmem' (by omega), hlocate, rfl, rfl, rfl⟩

/-- A handler is bound to the target of a template exactly if the template is
located in its body. -/
theorem resolveOne_eq_bound_iff (ht : t ∈ catalog.bound)
    (htarget : t.target? = some target) {b : Binding} :
    let r : Resolver := ⟨catalog, s, config⟩
    r.resolveOne ⟨id, some body⟩ = .bound b ∧ b.opcode = target ↔
      ∃ p, r.environment.locate? t body = some p ∧
        b = ⟨id, target, t.name, p, t.isVerified⟩ := by
  intro r
  cases body with
  | nil =>
      constructor
      · rintro ⟨hb, -⟩
        simp [Resolver.resolveOne, Resolver.resolveOneBy] at hb
      · rintro ⟨p, hp, -⟩
        exact absurd rfl (ne_nil_of_locate? ht hp)
  | cons i is =>
      have hf : Outcome.Follows catalog r.environment.locate? id (i :: is)
          (r.resolveOne ⟨id, some (i :: is)⟩) :=
        r.follows_locate? ⟨id, some (i :: is)⟩
      constructor
      · rintro ⟨hb, rfl⟩
        obtain ⟨u, rest, hlocated, htargets, hu, hid, hname, hverified⟩ :=
          (hf.bound b).mp hb
        have hmem : u ∈ catalog.located r.environment.locate? (i :: is) := by
          rw [hlocated]
          exact List.mem_cons_self
        have hutarget := Catalog.target?_of_locatedTargets hmem htargets
        obtain rfl : t = u := List.inj_on_of_nodup_map nodup_targets ht
          (List.mem_filter.mp hmem).1 (htarget.trans hutarget.symm)
        refine ⟨b.position, hu, ?_⟩
        rw [← hid, ← hname, ← hverified]
      · rintro ⟨p, hp, rfl⟩
        exact ⟨bound_of_locate? hf ht htarget hp, rfl⟩

/-- What it takes to be bound to the target of a template that lists the opcodes
of the whole body. -/
theorem exists_bound_iff_of_entire {opcodes : List Opcode}
    (ht : t ∈ catalog.bound) (htarget : t.target? = some target)
    (hanchor : t.anchor = .start) (hextent : t.extent = .entire)
    (hslots : t.slots = opcodes.map .exact) :
    (∃ b, (Resolver.mk catalog s config).resolveOne ⟨id, some body⟩ =
        .bound b ∧ b.opcode = target) ↔
      body.opcodes = opcodes ∧
        (Resolver.mk catalog s config).environment.verifies t body 0 = true := by
  have hfits : t.fitsAt body 0 = true ↔ body.opcodes = opcodes := by
    rw [Template.fitsAt_entire_iff hextent hslots]
    simp
  simp only [resolveOne_eq_bound_iff ht htarget]
  simp only [Environment.locate?_eq_some_iff_of_start hanchor, hfits]
  constructor
  · rintro ⟨b, p, ⟨rfl, hholds⟩, -⟩
    exact hholds
  · intro hholds
    exact ⟨_, 0, ⟨rfl, hholds⟩, rfl⟩

end Builtin

end HandlerRecognition
