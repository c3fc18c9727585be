import HandlerRecognition.Proofs.Resolution.Recording
import HandlerRecognition.Proofs.Resolution.SameBody
import HandlerRecognition.Proofs.Resolution.Trials

/-!
# The content of a resolution

A batch is resolved in two passes: the conflicts are recorded, then the outcomes
of the handlers that were kept. `Resolver.outcome?_resolve` says what comes of
it identifier by identifier, and `Resolver.Accounts` puts this in terms of the
submitted handlers: nothing is lost, recorded twice or put in two tables.
-/

namespace HandlerRecognition

namespace Batch

/-- Every handler is kept under its own identifier. -/
def Keyed (b : Batch) : Prop :=
  ∀ (id : HandlerId) (s : Submission), b.find? id = some s → s.handler.id = id

theorem keyed_ofHandlers (handlers : List Handler) :
    Keyed (ofHandlers handlers) :=
  fun _ _ h => id_of_find?_ofHandlers h

theorem mem_conflicts_iff {b : Batch} {id : HandlerId} :
    id ∈ b.conflicts ↔ ∃ s, b.find? id = some s ∧ s.isConflicting = true := by
  simp [conflicts, ← Table.mem_entries_iff]

theorem mem_accepted_iff {b : Batch} {h : Handler} :
    h ∈ b.accepted ↔
      ∃ id s, b.find? id = some s ∧ s.isConflicting = false ∧
        s.handler = h := by
  simp [accepted, ← Table.mem_entries_iff, and_assoc]

/-- Every identifier is either in conflict or that of an accepted handler. -/
theorem perm_keys {b : Batch} (hb : b.Keyed) :
    (b.conflicts ++ b.accepted.map Handler.id).Perm b.keys := by
  have haccepted : b.accepted.map Handler.id =
      (b.entries.filter fun e => !e.2.isConflicting).map Prod.fst := by
    rw [accepted, List.map_map]
    refine List.map_congr_left fun e he => ?_
    exact hb _ _ (Table.mem_entries_iff.mp (List.mem_filter.mp he).1)
  rw [haccepted, conflicts, ← List.map_append]
  exact (List.filter_append_perm _ _).map _

/-- Everything that is recorded for a batch, in the order in which it is, if
handlers have the given outcomes. -/
def recordedBy (b : Batch) (outcome : Handler → Outcome) :
    List (HandlerId × Outcome) :=
  b.conflicts.map (fun id => (id, .unresolved .duplicateId)) ++
    b.accepted.map fun h => (h.id, outcome h)

theorem nodup_recordedBy {b : Batch} (hb : b.Keyed)
    (outcome : Handler → Outcome) :
    ((b.recordedBy outcome).map Prod.fst).Nodup := by
  have hkeys : (b.recordedBy outcome).map Prod.fst =
      b.conflicts ++ b.accepted.map Handler.id := by
    simp [recordedBy, Function.comp_def]
  rw [hkeys]
  exact (perm_keys hb).nodup_iff.mpr b.nodup_keys

end Batch

namespace Resolver

variable (r : Resolver)

theorem entries_eq_map (handlers : List Handler) :
    r.entries handlers = handlers.map r.entry := by
  rw [entries]
  split
  · rw [List.map_map]
    rfl
  · rfl

/-- The outcome of what was submitted under an identifier. -/
def outcomeOf (s : Submission) : Outcome :=
  if s.isConflicting then .unresolved .duplicateId else r.resolveOne s.handler

/-- Everything that is recorded for a batch, in the order in which it is. -/
def recorded (b : Batch) : List (HandlerId × Outcome) :=
  b.recordedBy r.resolveOne

theorem resolveBatch_eq (b : Batch) :
    r.resolveBatch b = Resolution.empty.recordAll (r.recorded b) := by
  rw [resolveBatch, recorded, Batch.recordedBy, entries_eq_map,
    Resolution.recordAll, Resolution.recordAll, Resolution.recordAll,
    List.foldl_append]
  rfl

theorem nodup_recorded {b : Batch} (hb : b.Keyed) :
    ((r.recorded b).map Prod.fst).Nodup :=
  Batch.nodup_recordedBy hb r.resolveOne

theorem mem_recorded_iff {b : Batch} (hb : b.Keyed) {id : HandlerId}
    {outcome : Outcome} :
    (id, outcome) ∈ r.recorded b ↔
      ∃ s, b.find? id = some s ∧ r.outcomeOf s = outcome := by
  simp only [recorded, Batch.recordedBy, List.mem_append, List.mem_map,
    Batch.mem_conflicts_iff, Batch.mem_accepted_iff, Prod.mk.injEq, outcomeOf]
  constructor
  · intro h
    rcases h with ⟨_, ⟨s, hs, hconflict⟩, rfl, rfl⟩ |
      ⟨_, ⟨key, s, hs, hconflict, rfl⟩, rfl, rfl⟩
    · exact ⟨s, hs, if_pos hconflict⟩
    · rw [hb key s hs]
      exact ⟨s, hs, by simp [hconflict]⟩
  · intro h
    obtain ⟨s, hs, rfl⟩ := h
    cases hconflict : s.isConflicting with
    | true => exact Or.inl ⟨id, ⟨s, hs, hconflict⟩, rfl, rfl⟩
    | false =>
        exact Or.inr ⟨s.handler, ⟨id, s, hs, hconflict, rfl⟩, hb id s hs, rfl⟩

theorem separate_resolve (handlers : List Handler) :
    (r.resolve handlers).Separate := by
  rw [resolve, resolveBatch_eq]
  exact (Resolution.recordAll_spec Resolution.separate_empty
    (r.nodup_recorded (Batch.keyed_ofHandlers handlers)) fun _ _ => rfl).1

/-- The outcome under an identifier is that of what was submitted under it. -/
theorem outcome?_resolve (handlers : List Handler) (id : HandlerId) :
    (r.resolve handlers).outcome? id =
      ((Batch.ofHandlers handlers).find? id).map r.outcomeOf := by
  have hkeyed := Batch.keyed_ofHandlers handlers
  refine Option.ext fun outcome => ?_
  rw [resolve, resolveBatch_eq, (Resolution.recordAll_spec Resolution.separate_empty
    (r.nodup_recorded hkeyed) fun _ _ => rfl).2, r.mem_recorded_iff hkeyed,
    Option.map_eq_some_iff]
  simp [Resolution.outcome?, Resolution.empty]

/-- What the outcome of a handler under an identifier may be: a binding names
the identifier, an ambiguous set has at least two opcodes, and a single handler
does not conflict with itself. -/
structure Proper (id : HandlerId) (outcome : Outcome) : Prop where
  handler (b : Binding) : outcome = .bound b → b.handler = id
  two_le (opcodes : List Opcode) :
    outcome = .ambiguous opcodes → opcodes.Nodup ∧ 2 ≤ opcodes.length
  reason : outcome ≠ .unresolved .duplicateId

theorem proper_ofTrials (id : HandlerId) (trials : List Trial) :
    Proper id (.ofTrials id trials) := by
  rcases Outcome.ofTrials_cases id trials with
    ⟨htwo, ho⟩ | ⟨c, cs, -, -, ho⟩ | ⟨-, -, ho⟩ | ⟨-, -, ho⟩ <;> rw [ho]
  · refine ⟨by simp, fun opcodes h => ?_, by simp⟩
    obtain rfl := Outcome.ambiguous.inj h
    exact ⟨Opcode.nodup_sorted _, htwo⟩
  · refine ⟨fun b h => ?_, by simp, by simp⟩
    obtain rfl := Outcome.bound.inj h
    rfl
  · exact ⟨by simp, by simp, by simp⟩
  · exact ⟨by simp, by simp, by simp⟩

theorem proper_resolveOne (h : Handler) : Proper h.id (r.resolveOne h) := by
  rw [resolveOne, resolveOneBy]
  split
  · exact ⟨by simp, by simp, by simp⟩
  · split
    · exact ⟨by simp, by simp, by simp⟩
    · exact proper_ofTrials _ _

/-- A resolution that accounts for a list of handlers. -/
structure Accounts (handlers : List Handler) (res : Resolution) : Prop where
  absent (id : HandlerId) :
    (∀ h ∈ handlers, h.id ≠ id) → res.outcome? id = none
  resolved (h : Handler) : h ∈ handlers → Handler.AgreeOn handlers h.id →
    res.outcome? h.id = some (r.resolveOne h)
  conflicting (h : Handler) : h ∈ handlers → ¬ Handler.AgreeOn handlers h.id →
    res.outcome? h.id = some (.unresolved .duplicateId)
  /-- There is no other way for an identifier to be reported as repeated. -/
  duplicate (id : HandlerId) : (id, .duplicateId) ∈ res.unresolved →
    (∃ h ∈ handlers, h.id = id) ∧ ¬ Handler.AgreeOn handlers id
  disjoint : res.boundTable.keys.Disjoint res.unresolvedTable.keys ∧
    res.boundTable.keys.Disjoint res.ambiguousTable.keys ∧
    res.unresolvedTable.keys.Disjoint res.ambiguousTable.keys
  size : res.size = (handlers.map Handler.id).dedup.length
  handler (id : HandlerId) (b : Binding) :
    (id, b) ∈ res.bindings → b.handler = id
  two_le (id : HandlerId) (opcodes : List Opcode) :
    (id, opcodes) ∈ res.ambiguous → opcodes.Nodup ∧ 2 ≤ opcodes.length

theorem proper_of_outcome? {handlers : List Handler} {id : HandlerId}
    {outcome : Outcome}
    (h : (r.resolve handlers).outcome? id = some outcome) :
    outcome = .unresolved .duplicateId ∨ Proper id outcome := by
  rw [outcome?_resolve, Option.map_eq_some_iff] at h
  obtain ⟨s, hs, rfl⟩ := h
  rw [← Batch.id_of_find?_ofHandlers hs, outcomeOf]
  split
  · exact Or.inl rfl
  · exact Or.inr (r.proper_resolveOne s.handler)

theorem outcome?_resolve_of_agreeOn {handlers : List Handler} {h : Handler}
    (hmem : h ∈ handlers) (hagree : Handler.AgreeOn handlers h.id) :
    (r.resolve handlers).outcome? h.id = some (r.resolveOne h) := by
  rw [outcome?_resolve]
  cases hs : (Batch.ofHandlers handlers).find? h.id with
  | none => exact absurd rfl (Batch.find?_ofHandlers_eq_none_iff.mp hs h hmem)
  | some s =>
      obtain ⟨hkept, hconflict⟩ := Batch.of_find?_ofHandlers hs
      have heq : r.resolveOne s.handler = r.resolveOne h := by
        rcases Handler.eq_or_sameBody hagree hkept
          (Handler.mem_withId.mpr ⟨hmem, rfl⟩) with rfl | hsame
        · rfl
        · exact r.resolveOne_eq_of_sameBody (Batch.id_of_find?_ofHandlers hs)
            hsame
      simp [outcomeOf, hconflict.mpr hagree, heq]

theorem outcome?_resolve_eq_duplicate_iff {handlers : List Handler}
    {id : HandlerId} :
    (r.resolve handlers).outcome? id = some (.unresolved .duplicateId) ↔
      (∃ h ∈ handlers, h.id = id) ∧ ¬ Handler.AgreeOn handlers id := by
  rw [outcome?_resolve]
  cases hs : (Batch.ofHandlers handlers).find? id with
  | none =>
      have habsent := Batch.find?_ofHandlers_eq_none_iff.mp hs
      simpa using fun h hmem hid => absurd hid (habsent h hmem)
  | some s =>
      obtain ⟨hkept, hconflict⟩ := Batch.of_find?_ofHandlers hs
      obtain ⟨hmem, hid⟩ := Handler.mem_withId.mp hkept
      have hsubmitted : ∃ h ∈ handlers, h.id = id := ⟨s.handler, hmem, hid⟩
      rw [← hconflict]
      cases hflag : s.isConflicting with
      | true => simpa [outcomeOf, hflag] using hsubmitted
      | false => simp [outcomeOf, hflag, (r.proper_resolveOne s.handler).reason]

/-- A resolution accounts for the handlers it was made from. -/
theorem resolve_accounts (handlers : List Handler) :
    r.Accounts handlers (r.resolve handlers) := by
  have hseparate := r.separate_resolve handlers
  refine ⟨fun id h => ?_, fun h hmem hagree => ?_, fun h hmem hagree => ?_,
    fun id h => ?_, hseparate.disjoint, ?_, fun id b h => ?_,
    fun id opcodes h => ?_⟩
  · rw [outcome?_resolve, Batch.find?_ofHandlers_eq_none_iff.mpr h]
    rfl
  · exact r.outcome?_resolve_of_agreeOn hmem hagree
  · exact r.outcome?_resolve_eq_duplicate_iff.mpr ⟨⟨h, hmem, rfl⟩, hagree⟩
  · exact r.outcome?_resolve_eq_duplicate_iff.mp
      (hseparate.mem_unresolved_iff.mp h)
  · refine hseparate.size_eq fun id => ?_
    rw [outcome?_resolve, Ne, Option.map_eq_none_iff,
      Batch.find?_ofHandlers_eq_none_iff]
    simp
  · rcases r.proper_of_outcome? (hseparate.mem_bindings_iff.mp h) with
      heq | hproper
    · simp at heq
    · exact hproper.handler b rfl
  · rcases r.proper_of_outcome? (hseparate.mem_ambiguous_iff.mp h) with
      heq | hproper
    · simp at heq
    · exact hproper.two_le opcodes rfl

/-- Bodies that are the same are no conflict, and neither are two that are missing. A
number that differs from itself is one, and so is a body that is missing once. -/
example :
    let push (word : UInt64) : Body :=
      [⟨0, .ldcR8, .immediate (.float64 word)⟩]
    let handlers : List Handler :=
      [⟨⟨1⟩, some (push 0)⟩, ⟨⟨1⟩, some (push 0)⟩, ⟨⟨2⟩, none⟩, ⟨⟨2⟩, none⟩,
        ⟨⟨3⟩, some (push 0x7FF8000000000000)⟩,
        ⟨⟨3⟩, some (push 0x7FF8000000000000)⟩, ⟨⟨4⟩, none⟩, ⟨⟨4⟩, some []⟩]
    ((Resolver.new Builtin.catalog .empty).resolve handlers).unresolved =
      [(⟨1⟩, .noMatch), (⟨2⟩, .missingBody), (⟨3⟩, .duplicateId),
        (⟨4⟩, .duplicateId)] := by
  decide

end Resolver

end HandlerRecognition
