import HandlerRecognition.Instruction.Body

/-!
# The equality of submitted bodies

`Body.same?` is symmetric and transitive at every level, from numbers up to
bodies that may be missing. It is not reflexive, since a word that is not a
number differs from itself.

On a list of bodies this is enough for a comparison with the first one to stand
for all comparisons, which `Body.all_same?_iff_pairwise` states.
-/

namespace HandlerRecognition

theorem Binary.Format.sameNumber_trans (f : Binary.Format) {u v w : Nat}
    (huv : f.sameNumber u v = true) (hvw : f.sameNumber v w = true) :
    f.sameNumber u w = true := by
  simp only [sameNumber, Bool.and_eq_true, Bool.or_eq_true, beq_iff_eq]
    at huv hvw ⊢
  obtain ⟨⟨hu, _⟩, heq | ⟨hzu, hzv⟩⟩ := huv
  · subst heq
    exact hvw
  · obtain ⟨⟨_, hw⟩, heq | ⟨_, hzw⟩⟩ := hvw
    · subst heq
      exact ⟨⟨hu, hw⟩, Or.inr ⟨hzu, hzv⟩⟩
    · exact ⟨⟨hu, hw⟩, Or.inr ⟨hzu, hzw⟩⟩

namespace Immediate

theorem same_comm (a b : Immediate) : a.same b = b.same a := by
  cases a <;> cases b <;>
    simp [same, Binary.Format.sameNumber_comm, BEq.comm]

theorem same_trans {a b c : Immediate} (hab : a.same b = true)
    (hbc : b.same c = true) : a.same c = true := by
  cases a with
  | float32 u =>
      cases b <;> simp [same] at hab
      cases c <;> simp [same] at hbc
      exact Binary.Format.sameNumber_trans _ hab hbc
  | float64 u =>
      cases b <;> simp [same] at hab
      cases c <;> simp [same] at hbc
      exact Binary.Format.sameNumber_trans _ hab hbc
  | _ =>
      obtain rfl : _ = b := by simpa [same] using hab
      exact hbc

end Immediate

namespace Operand

theorem same_comm (a b : Operand) : a.same b = b.same a := by
  cases a <;> cases b <;> simp [same, Immediate.same_comm, BEq.comm]

theorem same_trans {a b c : Operand} (hab : a.same b = true)
    (hbc : b.same c = true) : a.same c = true := by
  cases a with
  | immediate u =>
      cases b <;> simp [same] at hab
      cases c <;> simp [same] at hbc
      exact Immediate.same_trans hab hbc
  | _ =>
      obtain rfl : _ = b := by simpa [same] using hab
      exact hbc

theorem token?_eq_of_same {a b : Operand} (h : a.same b = true) :
    a.token? = b.token? := by
  cases a <;> cases b <;> simp_all [same, token?]

end Operand

namespace Instruction

theorem same_comm (i j : Instruction) : i.same j = j.same i := by
  simp only [same, BEq.comm (a := i.offset), BEq.comm (a := i.opcode),
    Operand.same_comm i.operand]

theorem same_trans {i j k : Instruction} (hij : i.same j = true)
    (hjk : j.same k = true) : i.same k = true := by
  simp only [same, Bool.and_eq_true, beq_iff_eq] at hij hjk ⊢
  exact ⟨⟨hij.1.1.trans hjk.1.1, hij.1.2.trans hjk.1.2⟩,
    Operand.same_trans hij.2 hjk.2⟩

end Instruction

namespace Body

theorem same_comm (a b : Body) : same a b = same b a := by
  induction a generalizing b with
  | nil => cases b <;> rfl
  | cons i is ih =>
      cases b with
      | nil => rfl
      | cons j js => simp only [same, Instruction.same_comm i, ih]

theorem same_trans {a b c : Body} (hab : same a b = true)
    (hbc : same b c = true) : same a c = true := by
  induction a generalizing b c with
  | nil =>
      cases b with
      | nil => exact hbc
      | cons j js => simp [same] at hab
  | cons i is ih =>
      cases b with
      | nil => simp [same] at hab
      | cons j js =>
          cases c with
          | nil => simp [same] at hbc
          | cons k ks =>
              simp only [same, Bool.and_eq_true] at hab hbc ⊢
              exact ⟨Instruction.same_trans hab.1 hbc.1, ih hab.2 hbc.2⟩

theorem same?_comm (a b : Option Body) : same? a b = same? b a := by
  cases a <;> cases b <;> simp only [same?, same_comm]

theorem same?_trans {a b c : Option Body} (hab : same? a b = true)
    (hbc : same? b c = true) : same? a c = true := by
  cases a with
  | none =>
      cases b with
      | none => exact hbc
      | some b => simp [same?] at hab
  | some a =>
      cases b with
      | none => simp [same?] at hab
      | some b =>
          cases c with
          | none => simp [same?] at hbc
          | some c => exact same_trans hab hbc

/-- Bodies that all equal the first one are equal in pairs, and conversely. -/
theorem all_same?_iff_pairwise (a : Option Body) (others : List (Option Body)) :
    (∀ b ∈ others, same? a b = true) ↔
      (a :: others).Pairwise fun b c => same? b c = true := by
  rw [List.pairwise_cons]
  constructor
  · intro h
    refine ⟨h, List.pairwise_of_forall_mem_list fun b hb c hc => ?_⟩
    have hba : same? b a = true := by
      rw [same?_comm]
      exact h b hb
    exact same?_trans hba (h c hc)
  · exact fun h => h.1

end Body

end HandlerRecognition
