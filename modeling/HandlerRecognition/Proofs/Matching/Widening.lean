import HandlerRecognition.Matching.Shape
import Mathlib.Data.Nat.Bitwise

/-!
# What a widened template accepts

`Template.interchange` widens the exact slots of some families. Widening for one
set of families after another is widening for their union, so neither the order nor
a repetition matters, and of the bits of a set only those of families do.

A widened template fits exactly the variants of what the template fits: the bodies
in which an opcode that stands at a widened slot has been replaced by another one
of its family (`Template.IsVariant`). One direction puts the opcodes of the slots
back in place (`Template.restore`).
-/

namespace HandlerRecognition

namespace Interchange

variable {x y : Interchange} {f : Family} {slot : Slot} {o : Opcode}

theorem union_comm (x y : Interchange) : x.union y = y.union x := by
  rw [union, union, UInt8.or_comm]

/-- The place of the bit of a family. -/
def place : Family → Nat
  | .loadLocal => 0
  | .storeLocal => 1

theorem toNat_bit (f : Family) : (bit f).toNat = 2 ^ place f := by
  cases f <;> rfl

theorem contains_eq_testBit (x : Interchange) (f : Family) :
    x.contains f = x.bits.toNat.testBit (place f) := by
  have hpos : 0 < 2 ^ place f := Nat.two_pow_pos _
  rw [contains, Bool.eq_iff_iff, beq_iff_eq, ← UInt8.toNat_inj, UInt8.toNat_and,
    toNat_bit, Nat.and_two_pow]
  cases x.bits.toNat.testBit (place f) with
  | false => simp [hpos.ne]
  | true => simp

@[simp] theorem contains_union :
    (x.union y).contains f = (x.contains f || y.contains f) := by
  rw [contains_eq_testBit, contains_eq_testBit, contains_eq_testBit, union,
    UInt8.toNat_or, Nat.testBit_or]

/-- Bits that stand for no family can be cleared. -/
theorem contains_and_locals :
    contains ⟨x.bits &&& locals.bits⟩ f = x.contains f := by
  have hlocals : locals.bits.toNat.testBit (place f) = true := by
    cases f <;> decide
  rw [contains_eq_testBit, contains_eq_testBit, UInt8.toNat_and,
    Nat.testBit_and, hlocals, Bool.and_true]

/-- Sets of the same families widen alike. -/
theorem widen_congr (h : ∀ f, x.contains f = y.contains f) :
    x.widen = y.widen := by
  funext slot
  cases slot with
  | exact o => simp only [widen, h]
  | family f => rfl

theorem widen_widen (x y : Interchange) (slot : Slot) :
    y.widen (x.widen slot) = (x.union y).widen slot := by
  cases slot with
  | family f => rfl
  | exact o =>
      cases hfamily : Family.of? o with
      | none => simp [widen, hfamily]
      | some f =>
          cases hx : x.contains f with
          | false => simp [widen, hfamily, hx]
          | true => simp [widen, hfamily, hx]

theorem widen_exact (ho : f.contains o = true) (hf : x.contains f = true) :
    x.widen (.exact o) = .family f := by
  have hfamily := Family.of?_eq_some_iff.mpr ho
  simp [widen, hfamily, hf]

/-- The opcode of an exact slot that is widened. -/
def replaced? (x : Interchange) : Slot → Option Opcode
  | .exact o => if (Family.of? o).any x.contains then some o else none
  | .family _ => none

theorem replaced?_eq_some_iff :
    x.replaced? slot = some o ↔
      slot = .exact o ∧ ∃ f, f.contains o = true ∧ x.contains f = true := by
  cases slot with
  | family f => simp [replaced?]
  | exact o' =>
      have hany : (Family.of? o').any x.contains = true ↔
          ∃ f, f.contains o' = true ∧ x.contains f = true := by
        simp only [Option.any_eq_true, Family.of?_eq_some_iff]
      rw [replaced?, Option.ite_none_right_eq_some, hany, Slot.exact.injEq,
        Option.some.injEq, and_comm]
      constructor
      · rintro ⟨rfl, hf⟩
        exact ⟨rfl, hf⟩
      · rintro ⟨rfl, hf⟩
        exact ⟨rfl, hf⟩

theorem widen_of_replaced?_eq_none (h : x.replaced? slot = none) :
    x.widen slot = slot := by
  cases slot with
  | family f => rfl
  | exact o =>
      cases hfamily : Family.of? o with
      | none => simp [widen, hfamily]
      | some f =>
          have hf : x.contains f = false := by
            simpa [replaced?, hfamily] using h
          simp [widen, hfamily, hf]

end Interchange

namespace Template

variable {t : Template} {x : Interchange} {body body' : Body} {start p : Nat}

theorem interchange_interchange (t : Template) (x y : Interchange) :
    (t.interchange x).interchange y = t.interchange (x.union y) := by
  have hslots : (t.slots.map x.widen).map y.widen =
      t.slots.map (x.union y).widen := by
    rw [List.map_map]
    exact List.map_congr_left fun slot _ => x.widen_widen y slot
  simp only [interchange, hslots]

/-- At a position of a body stands an exact slot of a family that is widened. -/
def WidensAt (t : Template) (x : Interchange) (start p : Nat) (f : Family) :
    Prop :=
  ∃ k o, p = start + k ∧ t.slots[k]? = some (.exact o) ∧
    f.contains o = true ∧ x.contains f = true

/-- Bodies of the same length with the same opcodes, except that widened slots may
stand at different opcodes of their family. -/
structure IsVariant (t : Template) (x : Interchange) (start : Nat)
    (body body' : Body) : Prop where
  length_eq : body.length = body'.length
  widened {p : Nat} {f : Family} {i j : Instruction}
    (hf : t.WidensAt x start p f) (hi : body[p]? = some i)
    (hj : body'[p]? = some j) :
    f.contains i.opcode = true ∧ f.contains j.opcode = true
  elsewhere {p : Nat} {i j : Instruction}
    (hf : ∀ f, ¬ t.WidensAt x start p f) (hi : body[p]? = some i)
    (hj : body'[p]? = some j) : i.opcode = j.opcode

/-- The opcode of the widened slot that stands at a position. -/
def replacedAt? (t : Template) (x : Interchange) (start p : Nat) :
    Option Opcode :=
  if start ≤ p then (t.slots[p - start]?).bind x.replaced? else none

theorem replacedAt?_add (k : Nat) :
    t.replacedAt? x start (start + k) = (t.slots[k]?).bind x.replaced? := by
  rw [replacedAt?, if_pos (Nat.le_add_right _ _), Nat.add_sub_cancel_left]

theorem widensAt_of_replacedAt? {o : Opcode}
    (h : t.replacedAt? x start p = some o) :
    ∃ f, t.WidensAt x start p f := by
  obtain ⟨hle, hslot⟩ := Option.ite_none_right_eq_some.mp h
  obtain ⟨slot, hslot, hreplaced⟩ := Option.bind_eq_some_iff.mp hslot
  obtain ⟨rfl, f, ho, hf⟩ := Interchange.replaced?_eq_some_iff.mp hreplaced
  exact ⟨f, p - start, o, by omega, hslot, ho, hf⟩

/-- The body with the opcodes of the widened slots that stand in it. -/
def restore (t : Template) (x : Interchange) (start : Nat) (body : Body) :
    Body :=
  body.mapIdx fun p i =>
    { i with opcode := (t.replacedAt? x start p).getD i.opcode }

theorem getElem?_restore :
    (t.restore x start body)[p]? = (body[p]?).map fun i =>
      { i with opcode := (t.replacedAt? x start p).getD i.opcode } :=
  List.getElem?_mapIdx

theorem length_restore : (t.restore x start body).length = body.length :=
  List.length_mapIdx

/-- The slots of a template, widened one by one. -/
theorem getElem?_slots_interchange {k : Nat} {slot : Slot}
    (h : t.slots[k]? = some slot) :
    (t.interchange x).slots[k]? = some (x.widen slot) := by
  rw [interchange, List.getElem?_map, h]
  rfl

theorem length_interchange : (t.interchange x).length = t.length :=
  List.length_map _

/-- The template fits the body in which its opcodes are put back. -/
theorem fitsAt_restore (h : (t.interchange x).fitsAt body start = true) :
    t.fitsAt (t.restore x start body) start = true := by
  obtain ⟨hstart, hallows, haccepts⟩ := fitsAt_iff.mp h
  rw [length_interchange] at hallows
  rw [fitsAt_iff, length_restore]
  refine ⟨hstart, hallows, fun k slot j hslot hj => ?_⟩
  rw [getElem?_restore, replacedAt?_add, hslot, Option.bind_some] at hj
  obtain ⟨i, hi, rfl⟩ := Option.map_eq_some_iff.mp hj
  have hwidened := haccepts k _ i (getElem?_slots_interchange hslot) hi
  cases hreplaced : x.replaced? slot with
  | some o =>
      obtain ⟨rfl, -⟩ := Interchange.replaced?_eq_some_iff.mp hreplaced
      exact beq_self_eq_true o
  | none =>
      rw [Interchange.widen_of_replaced?_eq_none hreplaced] at hwidened
      exact hwidened

theorem isVariant_restore (h : (t.interchange x).fitsAt body start = true) :
    t.IsVariant x start body (t.restore x start body) where
  length_eq := length_restore.symm
  widened {p f i j} hf hi hj := by
    obtain ⟨k, o, rfl, hslot, ho, hx⟩ := hf
    have hreplaced : x.replaced? (.exact o) = some o :=
      Interchange.replaced?_eq_some_iff.mpr ⟨rfl, f, ho, hx⟩
    rw [getElem?_restore, hi, replacedAt?_add, hslot, Option.bind_some,
      hreplaced] at hj
    obtain rfl := Option.some.inj hj
    have hwidened := (fitsAt_iff.mp h).2.2 k _ i
      (getElem?_slots_interchange hslot) hi
    rw [Interchange.widen_exact ho hx] at hwidened
    exact ⟨hwidened, ho⟩
  elsewhere {p i j} hf hi hj := by
    have hnone : t.replacedAt? x start p = none := by
      rw [Option.eq_none_iff_forall_ne_some]
      intro o ho
      obtain ⟨f, hwidens⟩ := widensAt_of_replacedAt? ho
      exact hf f hwidens
    rw [getElem?_restore, hi, hnone] at hj
    obtain rfl := Option.some.inj hj
    rfl

/-- The widened template fits the variants of what the template fits. -/
theorem fitsAt_interchange_of_isVariant
    (hvariant : t.IsVariant x start body body')
    (h : t.fitsAt body' start = true) :
    (t.interchange x).fitsAt body start = true := by
  obtain ⟨hstart, hallows, haccepts⟩ := fitsAt_iff.mp h
  rw [← hvariant.length_eq] at hstart hallows
  rw [fitsAt_iff, length_interchange]
  refine ⟨hstart, hallows, fun k widened i hwidened hi => ?_⟩
  obtain ⟨slot, hslot, rfl⟩ : ∃ slot, t.slots[k]? = some slot ∧
      x.widen slot = widened := by
    rw [interchange, List.getElem?_map] at hwidened
    exact Option.map_eq_some_iff.mp hwidened
  obtain ⟨j, hj⟩ : ∃ j, body'[start + k]? = some j := by
    have hlt := (List.getElem?_eq_some_iff.mp hi).1
    rw [hvariant.length_eq] at hlt
    exact ⟨_, List.getElem?_eq_getElem hlt⟩
  cases hreplaced : x.replaced? slot with
  | some o =>
      obtain ⟨rfl, f, ho, hf⟩ := Interchange.replaced?_eq_some_iff.mp hreplaced
      have hwidens : t.WidensAt x start (start + k) f :=
        ⟨k, o, rfl, hslot, ho, hf⟩
      rw [Interchange.widen_exact ho hf]
      exact (hvariant.widened hwidens hi hj).1
  | none =>
      have hnone (f : Family) : ¬ t.WidensAt x start (start + k) f := by
        rintro ⟨k', o, hk, hslot', ho, hf⟩
        obtain rfl : k = k' := Nat.add_left_cancel hk
        obtain rfl := Option.some.inj (hslot.symm.trans hslot')
        rw [Interchange.replaced?_eq_some_iff.mpr ⟨rfl, f, ho, hf⟩] at hreplaced
        cases hreplaced
      rw [Interchange.widen_of_replaced?_eq_none hreplaced,
        hvariant.elsewhere hnone hi hj]
      exact haccepts k slot j hslot hj

/-- Widening a template generalises it by the families of the set and by nothing
else. Widening twice, in either order, is widening for the union of the sets. It
changes only the slots, and of the bits of a set it reads the lowest two. A widened
template fits the bodies that are variants of a body that the template fits, at the
same position. -/
theorem interchange_generalises (t : Template) :
    (∀ x y : Interchange,
      (t.interchange x).interchange y = t.interchange (x.union y) ∧
      (t.interchange y).interchange x = t.interchange (x.union y)) ∧
    (∀ x : Interchange,
      t.interchange x = { t with slots := (t.interchange x).slots } ∧
      t.interchange x = t.interchange ⟨x.bits &&& 0x03⟩) ∧
    ∀ (x : Interchange) (body : Body) (start : Nat),
      (t.interchange x).fitsAt body start = true ↔
        ∃ body', t.fitsAt body' start = true ∧
          t.IsVariant x start body body' := by
  refine ⟨fun x y => ⟨t.interchange_interchange x y, ?_⟩, fun x => ⟨rfl, ?_⟩,
    fun x body start => ?_⟩
  · rw [x.union_comm y]
    exact t.interchange_interchange y x
  · have hbits : x.widen = Interchange.widen ⟨x.bits &&& 0x03⟩ :=
      Interchange.widen_congr fun _ => Interchange.contains_and_locals.symm
    simp only [interchange, hbits]
  · constructor
    · intro h
      exact ⟨_, fitsAt_restore h, isVariant_restore h⟩
    · rintro ⟨body', h, hvariant⟩
      exact fitsAt_interchange_of_isVariant hvariant h

/-- The lowest bit is that of the loads, and the one above it that of the stores. -/
example :
    let t := Template.window "" none [.ldloc0, .stloc1]
    (t.interchange ⟨0x01⟩).slots = [.family .loadLocal, .exact .stloc1] ∧
      (t.interchange ⟨0x02⟩).slots = [.exact .ldloc0, .family .storeLocal] := by
  decide

end Template

end HandlerRecognition
