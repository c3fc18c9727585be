import HandlerRecognition.Proofs.Resolution.Content

/-!
# Independence of the order of submission

Handlers submitted in another order lead to the same identifiers, the same
conflicts and, where there is none, to a kept handler with an equal body. What
depends on this alone is the same for both orders: the outcomes, and with them
the whole resolution, and the events that are logged.

The workers over which handlers are spread change nothing about the outcomes.
-/

namespace HandlerRecognition

namespace Submission

/-- Submissions of which one may stand for the other. -/
structure Interchangeable (s s' : Submission) : Prop where
  isConflicting : s.isConflicting = s'.isConflicting
  id : s.handler.id = s'.handler.id
  body : s.isConflicting = false →
    s.handler = s'.handler ∨ Handler.SameBody s.handler s'.handler

end Submission

namespace Batch

variable {γ : Type} {handlers handlers' : List Handler}

theorem rel_find?_of_perm (hperm : handlers.Perm handlers') (id : HandlerId) :
    Option.Rel Submission.Interchangeable ((ofHandlers handlers).find? id)
      ((ofHandlers handlers').find? id) := by
  cases hs : (ofHandlers handlers).find? id with
  | none =>
      have hs' : (ofHandlers handlers').find? id = none := by
        rw [find?_ofHandlers_eq_none_iff] at hs ⊢
        exact fun h hmem => hs h (hperm.mem_iff.mpr hmem)
      rw [hs']
      exact .none
  | some s =>
      obtain ⟨hkept, hconflict⟩ := of_find?_ofHandlers hs
      obtain ⟨hmem, hid⟩ := Handler.mem_withId.mp hkept
      cases hs' : (ofHandlers handlers').find? id with
      | none =>
          have habsent := find?_ofHandlers_eq_none_iff.mp hs'
          exact absurd hid (habsent _ (hperm.mem_iff.mp hmem))
      | some s' =>
          obtain ⟨hkept', hconflict'⟩ := of_find?_ofHandlers hs'
          rw [← Handler.agreeOn_perm hperm] at hconflict'
          have hflag : s.isConflicting = false ↔ s'.isConflicting = false :=
            hconflict.trans hconflict'.symm
          refine .some ⟨?_, ?_, fun hnone => ?_⟩
          · rw [Bool.eq_iff_iff]
            simpa using not_congr hflag
          · rw [hid, id_of_find?_ofHandlers hs']
          · exact Handler.eq_or_sameBody (hconflict.mp hnone) hkept
              ((Handler.withId_perm hperm id).mem_iff.mpr hkept')

/-- What `f` makes of the accepted handlers, by identifier, with nothing where
there is a conflict. -/
def readout (f : Handler → γ) (b : Batch) : Table (Option γ) :=
  b.map fun s => if s.isConflicting then none else some (f s.handler)

theorem conflicts_eq_readout (f : Handler → γ) (b : Batch) :
    b.conflicts =
      ((b.readout f).entries.filter fun e => e.2.isNone).map Prod.fst := by
  simp only [conflicts, readout, Table.map]
  generalize b.entries = entries
  induction entries with
  | nil => rfl
  | cons e rest ih => cases he : e.2.isConflicting <;> simp_all

theorem map_accepted_eq_readout (f : Handler → γ) (b : Batch) :
    b.accepted.map f = (b.readout f).entries.filterMap Prod.snd := by
  simp only [accepted, readout, Table.map]
  generalize b.entries = entries
  induction entries with
  | nil => rfl
  | cons e rest ih => cases he : e.2.isConflicting <;> simp_all

/-- What does not tell equal bodies apart reads the same off the batches of two
orders. -/
theorem readout_perm (hperm : handlers.Perm handlers') {f : Handler → γ}
    (hf : ∀ g h : Handler, g.id = h.id → Handler.SameBody g h → f g = f h) :
    (ofHandlers handlers).readout f = (ofHandlers handlers').readout f := by
  refine Table.ext_find? fun id => ?_
  rw [readout, readout, Table.find?_map, Table.find?_map]
  refine map_eq_of_rel (rel_find?_of_perm hperm id) fun s s' hss => ?_
  rw [hss.isConflicting]
  split
  · rfl
  · have hflag : s.isConflicting = false := by
      rw [hss.isConflicting]
      simpa using ‹¬ s'.isConflicting = true›
    rcases hss.body hflag with hsame | hsame
    · rw [hsame]
    · rw [hf _ _ hss.id hsame]

theorem conflicts_perm (hperm : handlers.Perm handlers') :
    (ofHandlers handlers).conflicts = (ofHandlers handlers').conflicts := by
  rw [conflicts_eq_readout Handler.id, conflicts_eq_readout Handler.id,
    readout_perm hperm fun _ _ hid _ => hid]

theorem map_accepted_perm (hperm : handlers.Perm handlers') {f : Handler → γ}
    (hf : ∀ g h : Handler, g.id = h.id → Handler.SameBody g h → f g = f h) :
    (ofHandlers handlers).accepted.map f =
      (ofHandlers handlers').accepted.map f := by
  rw [map_accepted_eq_readout, map_accepted_eq_readout, readout_perm hperm hf]

end Batch

namespace Resolver

variable {handlers handlers' : List Handler}

theorem recorded_perm (r : Resolver) (hperm : handlers.Perm handlers') :
    r.recorded (.ofHandlers handlers) = r.recorded (.ofHandlers handlers') := by
  have hentry : ∀ g h : Handler, g.id = h.id → Handler.SameBody g h →
      (g.id, r.resolveOne g) = (h.id, r.resolveOne h) := by
    intro g h hid hbody
    rw [hid, r.resolveOne_eq_of_sameBody hid hbody]
  rw [recorded, recorded, Batch.recordedBy, Batch.recordedBy,
    Batch.conflicts_perm hperm, Batch.map_accepted_perm hperm hentry]

/-- Workers resolve handlers independently of each other, so their number shows
in no outcome. -/
theorem resolve_eq_recordAll (c : Catalog) (s : Store) (maxDepth : Nat)
    (isParallel : Bool) (handlers : List Handler) :
    (Resolver.mk c s ⟨isParallel, maxDepth⟩).resolve handlers =
      Resolution.empty.recordAll
        ((Resolver.mk c s ⟨false, maxDepth⟩).recorded
          (.ofHandlers handlers)) := by
  rw [resolve, resolveBatch_eq]
  rfl

theorem resolveLog_perm (r : Resolver) (hperm : handlers.Perm handlers')
    (hresolve : r.resolve handlers = r.resolve handlers') :
    r.resolveLog handlers = r.resolveLog handlers' := by
  have hlength : (Batch.ofHandlers handlers).accepted.length =
      (Batch.ofHandlers handlers').accepted.length := by
    simpa using congrArg List.length
      (Batch.map_accepted_perm hperm fun _ _ hid _ => hid)
  have hlog : (Batch.ofHandlers handlers).accepted.flatMap r.resolveOneLog =
      (Batch.ofHandlers handlers').accepted.flatMap r.resolveOneLog := by
    rw [List.flatMap_def, List.flatMap_def, Batch.map_accepted_perm hperm
      fun _ _ => r.resolveOneLog_eq_of_sameBody]
  simp only [resolveLog, Batch.log, Batch.conflicts_perm hperm, hlength, hlog,
    hresolve]

/-- Handlers submitted in another order have the same resolution, with one
worker or with several, and with one worker the same events are logged. -/
theorem resolve_perm (c : Catalog) (s : Store) (maxDepth : Nat)
    (isParallel isParallel' : Bool) (hperm : handlers.Perm handlers') :
    (Resolver.mk c s ⟨isParallel, maxDepth⟩).resolve handlers =
        (Resolver.mk c s ⟨isParallel', maxDepth⟩).resolve handlers' ∧
      (Resolver.mk c s ⟨false, maxDepth⟩).resolveLog handlers =
        (Resolver.mk c s ⟨false, maxDepth⟩).resolveLog handlers' := by
  have hresolve (p q : Bool) :
      (Resolver.mk c s ⟨p, maxDepth⟩).resolve handlers =
        (Resolver.mk c s ⟨q, maxDepth⟩).resolve handlers' := by
    rw [resolve_eq_recordAll, resolve_eq_recordAll, recorded_perm _ hperm]
  exact ⟨hresolve isParallel isParallel',
    resolveLog_perm _ hperm (hresolve false false)⟩

/-- Two bodies under one identifier that differ in the sign of a zero, so that
another one is kept in the other order. -/
theorem resolve_perm_signed_zeros :
    let zero (word : UInt64) : Handler :=
      ⟨⟨7⟩, some [⟨0, .ldcR8, .immediate (.float64 word)⟩]⟩
    let handlers := [zero 0, zero 0x8000000000000000, ⟨⟨3⟩, none⟩]
    handlers.Perm handlers.reverse ∧
      (Resolver.mk Builtin.catalog .empty ⟨true, 4⟩).resolve handlers =
        (Resolver.mk Builtin.catalog .empty ⟨false, 4⟩).resolve
          handlers.reverse ∧
      (Resolver.mk Builtin.catalog .empty ⟨false, 4⟩).resolveLog handlers =
        (Resolver.mk Builtin.catalog .empty ⟨false, 4⟩).resolveLog
          handlers.reverse :=
  ⟨(List.reverse_perm _).symm,
    resolve_perm Builtin.catalog .empty 4 true false
      (List.reverse_perm _).symm⟩

end Resolver

end HandlerRecognition
