import HandlerRecognition.Proofs.Resolution.Grouping
import HandlerRecognition.Proofs.Resolution.Insensitivity

/-!
# Handlers with equal bodies

Handlers under one identifier whose bodies count as equal have the same outcome
and are logged alike, although their bodies may differ. Their bodies are
similar, so every attempt and every count of refusals agrees.
-/

namespace HandlerRecognition

variable {g h : Handler}

theorem Handler.similar_of_sameBody (hid : g.id = h.id)
    (hbody : SameBody g h) : g.Similar h := by
  refine ⟨hid, ?_⟩
  rw [SameBody] at hbody
  generalize g.body? = a? at hbody ⊢
  generalize h.body? = b? at hbody ⊢
  cases a? with
  | none =>
      cases b? with
      | none => exact .none
      | some b => simp [Body.same?] at hbody
  | some a =>
      cases b? with
      | none => simp [Body.same?] at hbody
      | some b => exact .some (Body.similar_of_same hbody)

namespace Resolver

variable (r : Resolver)

/-- The outcome of a handler does not depend on which of several equal bodies it
has. -/
theorem resolveOne_eq_of_sameBody (hid : g.id = h.id)
    (hbody : Handler.SameBody g h) : r.resolveOne g = r.resolveOne h :=
  resolveOne_eq_of_similarUpTo (.refl (fun _ => rfl) r)
    (fun t _ => t.indifferent_eq) (Handler.similar_of_sameBody hid hbody)

/-- Nor do the events of resolving it. -/
theorem resolveOneLog_eq_of_sameBody (hid : g.id = h.id)
    (hbody : Handler.SameBody g h) : r.resolveOneLog g = r.resolveOneLog h :=
  resolveOneLog_eq_of_similarUpTo (.refl (fun _ => rfl) r)
    (fun t _ => t.indifferent_eq) (Handler.similar_of_sameBody hid hbody)

end Resolver

end HandlerRecognition
