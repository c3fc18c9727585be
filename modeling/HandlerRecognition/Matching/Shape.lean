import HandlerRecognition.Template.Basic

/-!
# Shapes

`Template.fitsAt` compares the slots of a template with the opcodes of a body
from some position on. Operands play no part in it. A position past the end fits
no template, not even one without slots.

`Anchor.span` is the range of positions at which a template is tried. A range
ends at the largest 64-bit index at the latest, so the range of a template that
is fixed at that index is empty.
-/

namespace HandlerRecognition

/-- Whether a number of slots may be matched where a number of instructions
remain. -/
def Extent.allows (slots remaining : Nat) : Extent → Bool
  | .entire => remaining == slots
  | .window => slots ≤ remaining

/-- Whether the shape of a template fits a body at a position. -/
def Template.fitsAt (t : Template) (body : Body) (start : Nat) : Bool :=
  start ≤ body.length &&
    t.extent.allows t.length (body.length - start) &&
    (t.slots.zip (body.drop start)).all fun (slot, i) => slot.accepts i.opcode

/-- A shape fits where the number of slots is allowed and every slot accepts the
opcode that it stands at. -/
theorem Template.fitsAt_iff {t : Template} {body : Body} {start : Nat} :
    t.fitsAt body start = true ↔
      start ≤ body.length ∧
        t.extent.allows t.length (body.length - start) = true ∧
          ∀ (k : Nat) (slot : Slot) (i : Instruction), t.slots[k]? = some slot →
            body[start + k]? = some i → slot.accepts i.opcode = true := by
  simp only [fitsAt, Bool.and_eq_true, decide_eq_true_eq, and_assoc,
    List.all_eq_true]
  refine and_congr_right fun _ => and_congr_right fun _ => ?_
  constructor
  · intro h k slot i hslot hi
    have hzip : (slot, i) ∈ t.slots.zip (body.drop start) := by
      refine List.mem_of_getElem? (i := k) ?_
      rw [List.getElem?_zip_eq_some, List.getElem?_drop]
      exact ⟨hslot, hi⟩
    exact h _ hzip
  · rintro h ⟨slot, i⟩ hzip
    obtain ⟨k, hk⟩ := List.mem_iff_getElem?.mp hzip
    rw [List.getElem?_zip_eq_some, List.getElem?_drop] at hk
    exact h k slot i hk.1 hk.2

/-- The positions from `first` up to and not including `stop`. -/
structure Span where
  first : Nat
  stop : Nat
  deriving DecidableEq

namespace Span

def count (s : Span) : Nat :=
  s.stop - s.first

/-- The first `n` positions, or all if there are no more. -/
def take (s : Span) (n : Nat) : List Nat :=
  List.range' s.first (min n s.count)

def positions (s : Span) : List Nat :=
  List.range' s.first s.count

@[simp] theorem mem_positions {s : Span} {p : Nat} :
    p ∈ s.positions ↔ s.first ≤ p ∧ p < s.stop := by
  simp [positions, count, List.mem_range'_1]
  omega

@[simp] theorem length_positions (s : Span) : s.positions.length = s.count := by
  simp [positions]

end Span

namespace Anchor

def lastIndex : Nat := UInt64.size - 1

/-- The positions at which a template is tried in a body of some length. -/
def span : Anchor → Nat → Span
  | .start, _ => ⟨0, 1⟩
  | .fixed index, _ => ⟨index.toNat, min (index.toNat + 1) lastIndex⟩
  | .scan, length => ⟨0, length⟩

end Anchor

end HandlerRecognition
