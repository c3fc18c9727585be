import HandlerRecognition.Proofs.Instruction.Equality
import HandlerRecognition.Resolution.Batch

/-!
# What a batch keeps of its handlers

A batch is built handler by handler, and one more handler touches nothing but
the submission under its own identifier (`Batch.find?_add`). So the submission
under an identifier is what the handlers with this identifier lead to, in their
order (`Batch.find?_foldl_add`).

The order does not matter for the conflict flag: bodies are compared with the
first one only, but equality is symmetric and transitive, so the flag is unset
exactly if the bodies are equal in pairs, which is `Handler.AgreeOn`. It matters
for which handler is kept, but if the flag is unset, those that might have been
kept have equal bodies.
-/

namespace HandlerRecognition

namespace Handler

/-- The handlers with an identifier, in order. -/
def withId (handlers : List Handler) (id : HandlerId) : List Handler :=
  handlers.filter fun h => h.id == id

/-- Handlers at different positions have equal bodies if they have the given
identifier. -/
def AgreeOn (handlers : List Handler) (id : HandlerId) : Prop :=
  ∀ (m n : Nat) (g h : Handler), handlers[m]? = some g →
    handlers[n]? = some h → m ≠ n → g.id = id → h.id = id →
    Body.same? g.body? h.body? = true

/-- Whether two handlers have equal bodies. -/
def SameBody (g h : Handler) : Prop :=
  Body.same? g.body? h.body? = true

theorem SameBody.symm {g h : Handler} (hgh : SameBody g h) : SameBody h g := by
  rw [SameBody, Body.same?_comm]
  exact hgh

@[simp] theorem mem_withId {handlers : List Handler} {id : HandlerId}
    {h : Handler} : h ∈ withId handlers id ↔ h ∈ handlers ∧ h.id = id := by
  simp [withId]

theorem withId_perm {handlers handlers' : List Handler}
    (h : handlers.Perm handlers') (id : HandlerId) :
    (withId handlers id).Perm (withId handlers' id) :=
  h.filter _

/-- Handlers with an identifier agree if they do so in pairs. -/
theorem agreeOn_iff_pairwise {handlers : List Handler} {id : HandlerId} :
    AgreeOn handlers id ↔ (withId handlers id).Pairwise SameBody := by
  rw [withId, List.pairwise_filter, List.pairwise_iff_getElem]
  simp only [beq_iff_eq]
  constructor
  · intro h m n hm hn hlt hg hh
    exact h m n _ _ (List.getElem?_eq_getElem hm) (List.getElem?_eq_getElem hn)
      (Nat.ne_of_lt hlt) hg hh
  · intro h m n g g' hm hn hne hg hg'
    obtain ⟨hml, rfl⟩ := List.getElem?_eq_some_iff.mp hm
    obtain ⟨hnl, rfl⟩ := List.getElem?_eq_some_iff.mp hn
    rcases Nat.lt_or_gt_of_ne hne with hlt | hlt
    · exact h m n hml hnl hlt hg hg'
    · exact SameBody.symm (h n m hnl hml hlt hg' hg)

theorem agreeOn_perm {handlers handlers' : List Handler}
    (h : handlers.Perm handlers') (id : HandlerId) :
    AgreeOn handlers id ↔ AgreeOn handlers' id := by
  rw [agreeOn_iff_pairwise, agreeOn_iff_pairwise]
  exact (withId_perm h id).pairwise_iff SameBody.symm

/-- Of handlers that agree, any two are the same or have equal bodies. -/
theorem eq_or_sameBody {handlers : List Handler} {id : HandlerId}
    (h : AgreeOn handlers id) {g g' : Handler} (hg : g ∈ withId handlers id)
    (hg' : g' ∈ withId handlers id) : g = g' ∨ SameBody g g' := by
  obtain ⟨hmem, hid⟩ := mem_withId.mp hg
  obtain ⟨hmem', hid'⟩ := mem_withId.mp hg'
  obtain ⟨m, hm⟩ := List.mem_iff_getElem?.mp hmem
  obtain ⟨n, hn⟩ := List.mem_iff_getElem?.mp hmem'
  by_cases hne : m = n
  · subst hne
    exact Or.inl (Option.some.inj (hm.symm.trans hn))
  · exact Or.inr (h m n g g' hm hn hne hid hid')

end Handler

namespace Submission

theorem foldl_receive (s : Submission) (handlers : List Handler) :
    handlers.foldl (fun s? h => some (receive h s?)) (some s) =
      some ⟨s.handler, s.isConflicting ||
        handlers.any fun h => !Body.same? s.handler.body? h.body?⟩ := by
  induction handlers generalizing s with
  | nil => simp
  | cons h hs ih =>
      rw [List.foldl_cons, receive_some, ih, List.any_cons, Bool.or_assoc]

end Submission

namespace Batch

theorem find?_add (b : Batch) (h : Handler) (id : HandlerId) :
    (b.add h).find? id =
      if h.id = id then some (Submission.receive h (b.find? id))
      else b.find? id := by
  rw [add, Table.find?_revise]
  by_cases hid : h.id = id
  · subst hid
    simp
  · rw [if_neg hid, if_neg (Ne.symm hid)]

theorem find?_foldl_add (handlers : List Handler) (b : Batch)
    (id : HandlerId) :
    (handlers.foldl add b).find? id =
      (Handler.withId handlers id).foldl
        (fun s? h => some (Submission.receive h s?)) (b.find? id) := by
  induction handlers generalizing b with
  | nil => rfl
  | cons h hs ih =>
      rw [List.foldl_cons, ih, find?_add]
      by_cases hid : h.id = id
      · simp [Handler.withId, hid]
      · simp [Handler.withId, hid]

/-- The first handler with an identifier is kept, and compared with all later
ones. -/
theorem find?_ofHandlers (handlers : List Handler) (id : HandlerId) :
    (ofHandlers handlers).find? id =
      match Handler.withId handlers id with
      | [] => none
      | first :: others =>
        some ⟨first, others.any fun h => !Body.same? first.body? h.body?⟩ := by
  rw [ofHandlers, find?_foldl_add, Table.find?_empty]
  cases Handler.withId handlers id with
  | nil => rfl
  | cons first others =>
      rw [List.foldl_cons, Submission.receive_none, Submission.foldl_receive,
        Bool.false_or]

theorem find?_ofHandlers_eq_none_iff {handlers : List Handler}
    {id : HandlerId} :
    (ofHandlers handlers).find? id = none ↔ ∀ h ∈ handlers, h.id ≠ id := by
  have hnil : Handler.withId handlers id = [] ↔ ∀ h ∈ handlers, h.id ≠ id := by
    simp [Handler.withId]
  rw [← hnil, find?_ofHandlers]
  cases Handler.withId handlers id <;> simp

/-- What is kept under an identifier is a handler with this identifier, and
there is a conflict unless all handlers with it agree. -/
theorem of_find?_ofHandlers {handlers : List Handler} {id : HandlerId}
    {s : Submission} (h : (ofHandlers handlers).find? id = some s) :
    s.handler ∈ Handler.withId handlers id ∧
      (s.isConflicting = false ↔ Handler.AgreeOn handlers id) := by
  rw [find?_ofHandlers] at h
  rw [Handler.agreeOn_iff_pairwise]
  cases hwith : Handler.withId handlers id with
  | nil => simp [hwith] at h
  | cons first others =>
      rw [hwith] at h
      obtain rfl := Option.some.inj h
      refine ⟨List.mem_cons_self, ?_⟩
      -- The flag speaks of comparisons with the first body only.
      have hpairs := Body.all_same?_iff_pairwise first.body?
        (others.map Handler.body?)
      rw [← List.map_cons, List.pairwise_map] at hpairs
      change _ ↔ (first :: others).Pairwise fun g h =>
        Body.same? g.body? h.body? = true
      rw [← hpairs]
      simp

theorem id_of_find?_ofHandlers {handlers : List Handler} {id : HandlerId}
    {s : Submission} (h : (ofHandlers handlers).find? id = some s) :
    s.handler.id = id :=
  (Handler.mem_withId.mp (of_find?_ofHandlers h).1).2

end Batch

end HandlerRecognition
