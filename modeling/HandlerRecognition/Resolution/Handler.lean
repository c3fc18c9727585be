import HandlerRecognition.Instruction.Body

/-!
# Handlers

A handler is submitted under an identifier that the caller chooses, as a rule
the opcode number of the interpreter. Its body is missing if it could not be
decoded. Identifiers are ordered by number.
-/

namespace HandlerRecognition

structure HandlerId where
  number : UInt32
  deriving DecidableEq

namespace HandlerId

instance : LT HandlerId := ⟨fun a b => a.number < b.number⟩

instance (a b : HandlerId) : Decidable (a < b) :=
  inferInstanceAs (Decidable (a.number < b.number))

def text (id : HandlerId) : String :=
  "handler " ++ toString id.number.toNat

theorem lt_irrefl (a : HandlerId) : ¬ a < a :=
  UInt32.lt_irrefl a.number

theorem lt_trans {a b c : HandlerId} (hab : a < b) (hbc : b < c) : a < c :=
  UInt32.lt_trans hab hbc

theorem ne_of_lt {a b : HandlerId} (h : a < b) : a ≠ b := by
  rintro rfl
  exact lt_irrefl a h

theorem lt_of_not_lt_of_ne {a b : HandlerId} (hlt : ¬ a < b) (hne : a ≠ b) :
    b < a := by
  obtain ⟨m⟩ := a
  obtain ⟨n⟩ := b
  have hle : n ≤ m := UInt32.not_lt.mp hlt
  have hmn : n ≠ m := by
    rintro rfl
    exact hne rfl
  exact UInt32.lt_of_le_of_ne hle hmn

end HandlerId

/-- A method submitted for recognition. -/
structure Handler where
  id : HandlerId
  /-- The decoded body, if there is one. -/
  body? : Option Body

end HandlerRecognition
