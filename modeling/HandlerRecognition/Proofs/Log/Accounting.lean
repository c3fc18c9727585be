import HandlerRecognition.Proofs.Log.Handler
import HandlerRecognition.Proofs.Resolution.Content

/-!
# Accounting for a log

The log of a batch with one worker is made of the conflicts, the announcement of
the batch, the lines of the handlers that were kept, and the summary.
`Resolution.IsLoggedBy` ties these to the resolution: which identifiers are in
conflict, which handlers were kept, what their lines say, and how many lines
there are of each level above the traces.
-/

namespace HandlerRecognition

namespace Outcome

theorem binding?_eq_some_iff {outcome : Outcome} {b : Binding} :
    outcome.binding? = some b ↔ outcome = .bound b := by
  cases outcome <;> simp [binding?]

theorem reason?_eq_some_iff {outcome : Outcome} {reason : Reason} :
    outcome.reason? = some reason ↔ outcome = .unresolved reason := by
  cases outcome <;> simp [reason?]

theorem opcodes?_eq_some_iff {outcome : Outcome} {opcodes : List Opcode} :
    outcome.opcodes? = some opcodes ↔ outcome = .ambiguous opcodes := by
  cases outcome <;> simp [opcodes?]

end Outcome

namespace Resolution

section Entries

variable {α : Type} {r : Resolution} {t : Table α}
  {kind? : Outcome → Option α} {make : α → Outcome}
  {outcomes : List (HandlerId × Outcome)}

/-- A table lists the recorded outcomes of its kind. -/
theorem perm_entries (ht : ∀ id, t.find? id = (r.outcome? id).bind kind?)
    (hmake : ∀ outcome value, kind? outcome = some value ↔ outcome = make value)
    (hnodup : outcomes.Nodup)
    (hfound : ∀ id outcome,
      r.outcome? id = some outcome ↔ (id, outcome) ∈ outcomes) :
    t.entries.Perm
      (outcomes.filterMap fun e => (kind? e.2).map fun value => (e.1, value)) := by
  have hentry {e : HandlerId × Outcome} {id : HandlerId} {value : α} :
      ((kind? e.2).map fun value => (e.1, value)) = some (id, value) ↔
        e = (id, make value) := by
    obtain ⟨key, outcome⟩ := e
    simp [hmake, and_comm]
  refine (List.perm_ext_iff_of_nodup t.nodup_entries
    (hnodup.filterMap fun e e' entry he he' => ?_)).mpr fun entry => ?_
  · obtain ⟨id, value⟩ := entry
    rw [hentry.mp he, hentry.mp he']
  · obtain ⟨id, value⟩ := entry
    rw [mem_entries_iff ht hmake, hfound, List.mem_filterMap]
    simp [hentry]

/-- The number of entries with a property is read off the recorded outcomes. -/
theorem countP_entries (ht : ∀ id, t.find? id = (r.outcome? id).bind kind?)
    (hmake : ∀ outcome value, kind? outcome = some value ↔ outcome = make value)
    (hnodup : outcomes.Nodup)
    (hfound : ∀ id outcome,
      r.outcome? id = some outcome ↔ (id, outcome) ∈ outcomes)
    (q : α → Bool) :
    t.entries.countP (fun e => q e.2) =
      outcomes.countP fun e => (kind? e.2).any q := by
  rw [(perm_entries ht hmake hnodup hfound).countP_eq, List.countP_filterMap]
  refine List.countP_congr fun e _ => ?_
  cases kind? e.2 <;> simp

end Entries

end Resolution

/-- Whether a handler was not tried for lack of instructions. -/
def Reason.isBodiless : Reason → Bool
  | .missingBody | .emptyBody => true
  | .noMatch | .rejected _ | .duplicateId => false

/-- The level of the line on an outcome, if there is one. -/
def Outcome.level? : Outcome → Option Level
  | .bound _ => some .debug
  | .ambiguous _ => some .warn
  | .unresolved reason => if reason.isBodiless then some .debug else none

theorem countP_eq_add {α : Type} {p q q' : α → Bool} (l : List α)
    (h : ∀ a, (if p a then 1 else 0) =
      (if q a then 1 else 0) + if q' a then 1 else 0) :
    l.countP p = l.countP q + l.countP q' := by
  induction l with
  | nil => rfl
  | cons a l ih =>
      rw [List.countP_cons, List.countP_cons, List.countP_cons, ih, h]
      omega

namespace Outcome

/-- Only an ambiguity is worth a warning. -/
theorem level?_eq_warn (outcome : Outcome) :
    decide (outcome.level? = some .warn) = outcome.opcodes?.isSome := by
  cases outcome with
  | bound b => rfl
  | ambiguous opcodes => rfl
  | unresolved reason => cases reason <;> rfl

/-- A line of the level for debugging tells of a binding or of a body without
instructions. -/
theorem level?_eq_debug (outcome : Outcome) :
    (if outcome.level? = some .debug then 1 else 0) =
      (if outcome.binding?.isSome then 1 else 0) +
        if outcome.reason?.any Reason.isBodiless then 1 else 0 := by
  cases outcome with
  | bound b => rfl
  | ambiguous opcodes => rfl
  | unresolved reason => cases reason <;> rfl

theorem level?_ne_info (outcome : Outcome) : outcome.level? ≠ some .info := by
  cases outcome with
  | bound b => simp [level?]
  | ambiguous opcodes => simp [level?]
  | unresolved reason => cases reason <;> simp [level?, Reason.isBodiless]

end Outcome

section Number

/-- The number of events of a level. -/
def Event.number (level : Level) (log : List Event) : Nat :=
  log.countP fun e => e.level == level

variable {level : Level} {id : HandlerId} {lines : List Event}
  {outcome : Outcome}

@[simp] theorem Event.number_append (log log' : List Event) :
    number level (log ++ log') = number level log + number level log' :=
  List.countP_append

@[simp] theorem Event.number_nil : number level [] = 0 := rfl

theorem Event.number_single (e : Event) :
    number level [e] = if some e.level = some level then 1 else 0 := by
  simp [number, List.countP_cons]

theorem Event.number_conflicts (ids : List HandlerId) :
    number level (ids.map .conflict) =
      if level = .warn then ids.length else 0 := by
  rw [number, List.countP_map]
  cases level <;> simp [Function.comp_def, Event.level]

theorem Event.number_traces (hlevel : level ≠ .trace)
    (h : ∀ e ∈ lines, e.IsTraceOf id) : number level lines = 0 := by
  refine List.countP_eq_zero.mpr fun e he => ?_
  rw [(h e he).1, beq_iff_eq]
  exact hlevel.symm

/-- Of the lines of a handler that are no traces, there is one if its outcome
has a line, and none otherwise. -/
theorem Outcome.IsLoggedBy.number_eq (hlevel : level ≠ .trace)
    (h : outcome.IsLoggedBy id lines) :
    Event.number level lines = if outcome.level? = some level then 1 else 0 := by
  have htraced (traces : List Event) (e : Event)
      (htraces : ∀ e ∈ traces, e.IsTraceOf id) :
      Event.number level (traces ++ [e]) =
        if some e.level = some level then 1 else 0 := by
    rw [Event.number_append, Event.number_traces hlevel htraces, Nat.zero_add,
      Event.number_single]
  cases outcome with
  | bound b =>
      obtain ⟨traces, htraces, rfl⟩ := h
      exact htraced traces _ htraces
  | ambiguous opcodes =>
      obtain ⟨traces, htraces, rfl⟩ := h
      exact htraced traces _ htraces
  | unresolved reason =>
      cases reason with
      | rejected names => exact Event.number_traces hlevel h.1
      | noMatch =>
          obtain rfl : lines = [] := h
          rfl
      | missingBody =>
          obtain rfl : lines = [.noBody id] := h
          exact Event.number_single _
      | emptyBody =>
          obtain rfl : lines = [.emptyBody id] := h
          exact Event.number_single _
      | duplicateId => exact h.elim

/-- The lines of several handlers, one behind the other. -/
theorem Event.number_flatMap {kept : List Handler} {outcome : Handler → Outcome}
    {lines : Handler → List Event} (hlevel : level ≠ .trace)
    (h : ∀ g ∈ kept, (outcome g).IsLoggedBy g.id (lines g)) :
    number level (kept.flatMap lines) =
      kept.countP fun g => (outcome g).level? = some level := by
  induction kept with
  | nil => rfl
  | cons g kept ih =>
      obtain ⟨hfirst, hrest⟩ := List.forall_mem_cons.mp h
      rw [List.flatMap_cons, number_append, hfirst.number_eq hlevel, ih hrest,
        List.countP_cons, Nat.add_comm]
      simp

end Number

/-- A log of a batch tells what became of the handlers. -/
structure Resolution.IsLoggedBy (res : Resolution) (templates : Nat)
    (conflicts : List HandlerId) (kept : List Handler)
    (lines : Handler → List Event) (log : List Event) : Prop where
  eq : log = conflicts.map .conflict ++
    .batch kept.length templates false :: kept.flatMap lines ++
      [.finished res.summary]
  ascending_conflicts : conflicts.Pairwise (· < ·)
  mem_conflicts (id : HandlerId) : id ∈ conflicts ↔
    res.outcome? id = some (.unresolved .duplicateId)
  ascending_kept : kept.Pairwise (·.id < ·.id)
  mem_kept (id : HandlerId) : (∃ h ∈ kept, h.id = id) ↔
    ∃ outcome, res.outcome? id = some outcome ∧
      outcome ≠ .unresolved .duplicateId
  lines (h : Handler) : h ∈ kept →
    ∃ outcome, res.outcome? h.id = some outcome ∧
      outcome.IsLoggedBy h.id (lines h)
  number_warn : Event.number .warn log =
    res.ambiguous.length + res.unresolved.countP fun e => e.2 = .duplicateId
  number_debug : Event.number .debug log =
    1 + res.bindings.length +
      res.unresolved.countP fun e => e.2.isBodiless
  number_info : Event.number .info log = 1

namespace Batch

variable {b : Batch}

theorem ascending_conflicts (b : Batch) : b.conflicts.Pairwise (· < ·) :=
  List.pairwise_map.mpr (b.ascending.filter _)

theorem ascending_accepted (hb : b.Keyed) :
    b.accepted.Pairwise (·.id < ·.id) := by
  have hid {e : HandlerId × Submission} (he : e ∈ b.entries) :
      e.2.handler.id = e.1 :=
    hb e.1 e.2 (Table.mem_entries_iff.mp he)
  refine List.pairwise_map.mpr ((b.ascending.filter _).imp_of_mem ?_)
  intro e e' he he' hlt
  rwa [hid (List.mem_filter.mp he).1, hid (List.mem_filter.mp he').1]

section Recorded

variable {outcome : Handler → Outcome} {id : HandlerId}

theorem countP_recordedBy (p : Outcome → Bool) :
    (b.recordedBy outcome).countP (fun e => p e.2) =
      (if p (.unresolved .duplicateId) then b.conflicts.length else 0) +
        b.accepted.countP fun h => p (outcome h) := by
  rw [recordedBy, List.countP_append, List.countP_map, List.countP_map]
  congr 1
  cases h : p (.unresolved .duplicateId) with
  | true => simp [Function.comp_def, h]
  | false => simp [Function.comp_def, h]

/-- The resolution of a batch in which handlers have the given outcomes. -/
def resolveBy (b : Batch) (outcome : Handler → Outcome) : Resolution :=
  Resolution.empty.recordAll (b.recordedBy outcome)

theorem separate_resolveBy (hb : b.Keyed) (outcome : Handler → Outcome) :
    (b.resolveBy outcome).Separate :=
  (Resolution.recordAll_spec Resolution.separate_empty
    (nodup_recordedBy hb outcome) fun _ _ => rfl).1

theorem outcome?_resolveBy (hb : b.Keyed) {o : Outcome} :
    (b.resolveBy outcome).outcome? id = some o ↔
      (id, o) ∈ b.recordedBy outcome := by
  have hempty : Resolution.empty.outcome? id = none := rfl
  rw [resolveBy, (Resolution.recordAll_spec Resolution.separate_empty
    (nodup_recordedBy hb outcome) fun _ _ => rfl).2]
  simp [hempty]

/-- The number of entries of a table, by conflicts and handlers. -/
theorem countP_entries (hb : b.Keyed) {α : Type} {t : Table α}
    {kind? : Outcome → Option α} {make : α → Outcome}
    (ht : ∀ id, t.find? id = ((b.resolveBy outcome).outcome? id).bind kind?)
    (hmake : ∀ o value, kind? o = some value ↔ o = make value)
    (q : α → Bool) :
    t.entries.countP (fun e => q e.2) =
      (if (kind? (.unresolved .duplicateId)).any q then b.conflicts.length
        else 0) + b.accepted.countP fun h => (kind? (outcome h)).any q :=
  (Resolution.countP_entries ht hmake
    (List.Nodup.of_map _ (nodup_recordedBy hb outcome))
    (fun _ _ => outcome?_resolveBy hb) q).trans
      (countP_recordedBy fun o => (kind? o).any q)

theorem length_bindings (hb : b.Keyed) :
    (b.resolveBy outcome).bindings.length =
      b.accepted.countP fun h => (outcome h).binding?.isSome := by
  have hcount := countP_entries hb (separate_resolveBy hb outcome).bound
    (fun _ _ => Outcome.binding?_eq_some_iff) fun _ => true
  have hnone : (Outcome.unresolved .duplicateId).binding? = none := rfl
  simpa [Resolution.bindings, hnone] using hcount

theorem length_ambiguous (hb : b.Keyed) :
    (b.resolveBy outcome).ambiguous.length =
      b.accepted.countP fun h => (outcome h).opcodes?.isSome := by
  have hcount := countP_entries hb (separate_resolveBy hb outcome).ambiguous
    (fun _ _ => Outcome.opcodes?_eq_some_iff) fun _ => true
  have hnone : (Outcome.unresolved .duplicateId).opcodes? = none := rfl
  simpa [Resolution.ambiguous, hnone] using hcount

theorem countP_unresolved (hb : b.Keyed) (q : Reason → Bool) :
    ((b.resolveBy outcome).unresolved.countP fun e => q e.2) =
      (if q .duplicateId then b.conflicts.length else 0) +
        b.accepted.countP fun h => (outcome h).reason?.any q :=
  countP_entries hb (separate_resolveBy hb outcome).unresolved
    (fun _ _ => Outcome.reason?_eq_some_iff) q

variable {lines : Handler → List Event}

/-- The log of a batch in which handlers have the given outcomes and lines, with one
worker. -/
def logBy (b : Batch) (outcome : Handler → Outcome)
    (lines : Handler → List Event) (templates : Nat) : List Event :=
  b.log lines templates false (b.resolveBy outcome)

theorem number_logBy {level : Level} (hlevel : level ≠ .trace)
    (templates : Nat) (h : ∀ g, (outcome g).IsLoggedBy g.id (lines g)) :
    Event.number level (b.logBy outcome lines templates) =
      (if level = .warn then b.conflicts.length else 0) +
        (if some .debug = some level then 1 else 0) +
        (b.accepted.countP fun g => (outcome g).level? = some level) +
        if some .info = some level then 1 else 0 := by
  have hsplit : b.logBy outcome lines templates =
      b.conflicts.map .conflict ++
        [.batch b.accepted.length templates false] ++
          b.accepted.flatMap lines ++
            [.finished (b.resolveBy outcome).summary] := by
    simp [logBy, log]
  rw [hsplit, Event.number_append, Event.number_append, Event.number_append,
    Event.number_conflicts, Event.number_single, Event.number_single,
    Event.number_flatMap hlevel fun g _ => h g]
  rfl

/-- The log of a batch, if the outcome of every handler is told by its lines. -/
theorem isLoggedBy_logBy (hb : b.Keyed) (templates : Nat)
    (h : ∀ g, (outcome g).IsLoggedBy g.id (lines g)) :
    (b.resolveBy outcome).IsLoggedBy templates b.conflicts b.accepted lines
      (b.logBy outcome lines templates) := by
  have hproper (g : Handler) : outcome g ≠ .unresolved .duplicateId := by
    intro heq
    have hnone := h g
    rw [heq] at hnone
    exact hnone
  have hfound (id : HandlerId) (o : Outcome) :
      (b.resolveBy outcome).outcome? id = some o ↔
        (id ∈ b.conflicts ∧ .unresolved .duplicateId = o) ∨
          ∃ g ∈ b.accepted, g.id = id ∧ outcome g = o := by
    rw [outcome?_resolveBy hb]
    simp [recordedBy]
  constructor
  case eq => rfl
  case ascending_conflicts => exact b.ascending_conflicts
  case mem_conflicts => simp [hfound, hproper]
  case ascending_kept => exact ascending_accepted hb
  case mem_kept =>
      intro id
      simp only [hfound]
      constructor
      · rintro ⟨g, hg, hid⟩
        exact ⟨outcome g, Or.inr ⟨g, hg, hid, rfl⟩, hproper g⟩
      · rintro ⟨o, ⟨-, rfl⟩ | ⟨g, hg, hid, -⟩, ho⟩
        · exact absurd rfl ho
        · exact ⟨g, hg, hid⟩
  case lines =>
      intro g hg
      exact ⟨outcome g, (hfound _ _).mpr (Or.inr ⟨g, hg, rfl, rfl⟩), h g⟩
  case number_warn =>
      have hnone : (b.accepted.countP fun g => (outcome g).reason?.any
          fun reason => reason = .duplicateId) = 0 := by
        refine List.countP_eq_zero.mpr fun g _ => ?_
        simpa [Option.any_eq_true, Outcome.reason?_eq_some_iff] using hproper g
      rw [number_logBy (by decide) templates h, length_ambiguous hb,
        countP_unresolved hb fun reason => reason = .duplicateId, hnone]
      simp [Outcome.level?_eq_warn, Nat.add_comm]
  case number_debug =>
      rw [number_logBy (by decide) templates h, length_bindings hb,
        countP_unresolved hb,
        countP_eq_add b.accepted fun g => by
          simpa using (outcome g).level?_eq_debug]
      simp [Reason.isBodiless, Nat.add_assoc]
  case number_info =>
      rw [number_logBy (by decide) templates h]
      simp [Outcome.level?_ne_info]

end Recorded

theorem accepted_subset (handlers : List Handler) :
    (ofHandlers handlers).accepted ⊆ handlers := by
  intro h hh
  obtain ⟨id, submission, hs, -, rfl⟩ := mem_accepted_iff.mp hh
  exact (Handler.mem_withId.mp (of_find?_ofHandlers hs).1).1

end Batch

namespace Resolver

/-- The resolution of a batch, whatever verifiers do. -/
def resolveBy (r : Resolver) (v : Verification) (handlers : List Handler) :
    Resolution :=
  (Batch.ofHandlers handlers).resolveBy (r.resolveOneBy v.holds)

/-- The log of a batch with one worker, whatever verifiers do. -/
def resolveLogBy (r : Resolver) (v : Verification) (handlers : List Handler) :
    List Event :=
  (Batch.ofHandlers handlers).logBy (r.resolveOneBy v.holds)
    (r.resolveOneLogBy v) r.catalog.size

theorem resolve_eq_resolveBy (r : Resolver) :
    r.resolve = r.resolveBy Environment.verification := by
  funext handlers
  rw [resolve, resolveBatch_eq]
  rfl

theorem resolveLog_eq_resolveLogBy (r : Resolver)
    (h : r.config.isParallel = false) :
    r.resolveLog = r.resolveLogBy Environment.verification := by
  funext handlers
  rw [resolveLog, h, resolve_eq_resolveBy]
  rfl

theorem exists_isLoggedBy (r : Resolver) (v : Verification)
    (handlers : List Handler) :
    ∃ conflicts kept, kept ⊆ handlers ∧
      (r.resolveBy v handlers).IsLoggedBy r.catalog.size conflicts kept
        (r.resolveOneLogBy v) (r.resolveLogBy v handlers) :=
  ⟨_, _, Batch.accepted_subset handlers,
    Batch.isLoggedBy_logBy (Batch.keyed_ofHandlers handlers) r.catalog.size
      (r.isLoggedBy_resolveOneLogBy v)⟩

/-- The log of a batch with one worker tells what became of the handlers, and it
would whatever verifiers do. -/
theorem resolveLog_tells (c : Catalog) (s : Store) (maxDepth : Nat)
    (handlers : List Handler) :
    let r : Resolver := ⟨c, s, ⟨false, maxDepth⟩⟩
    (∃ conflicts kept, kept ⊆ handlers ∧
      (r.resolve handlers).IsLoggedBy c.size conflicts kept r.resolveOneLog
        (r.resolveLog handlers)) ∧
    ∀ v : Verification, ∃ conflicts kept, kept ⊆ handlers ∧
      (r.resolveBy v handlers).IsLoggedBy c.size conflicts kept
        (r.resolveOneLogBy v) (r.resolveLogBy v handlers) := by
  intro r
  refine ⟨?_, fun v => r.exists_isLoggedBy v handlers⟩
  rw [resolve_eq_resolveBy, resolveLog_eq_resolveLogBy r rfl]
  exact r.exists_isLoggedBy Environment.verification handlers

/-- A handler that delegates where no helper is allowed. That is traced once, before
the template is reported as refused. -/
example :
    let helper : MethodRecord :=
      ⟨.ofParts Token.methodTable 1, "", none, ⟨none, []⟩, some []⟩
    let s : Store := ⟨.ofList [.method helper], by decide⟩
    let h : Handler := ⟨⟨1⟩, some [⟨0, .ldarg0, .none⟩,
      ⟨1, .callvirt, .token helper.token⟩, ⟨6, .ret, .none⟩]⟩
    (Resolver.mk Builtin.catalog s ⟨false, 0⟩).resolveLog [h] =
      [.batch 1 11 false, .depthLimit 0, .rejected ⟨1⟩ Builtin.retName,
        .finished "0 bound, 1 unresolved, 0 ambiguous"] := by
  decide

end Resolver

end HandlerRecognition
