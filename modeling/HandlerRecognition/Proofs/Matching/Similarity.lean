import HandlerRecognition.Matching.Shape
import HandlerRecognition.Proofs.Instruction.Equality
import Mathlib.Data.List.Forall2

/-!
# Similar bodies

Of an instruction, a verdict depends on the opcode and on a token in the operand
that refers to a method, a member or a field. Bodies are `Body.Similar` if they
are equally long and agree in these at every position. Offsets, constants,
targets and numbers of variables may differ.

The opcodes need not be equal where a template does not tell them apart. So
similarity is stated up to a relation between opcodes, and a template is
`Template.Indifferent` to the relation if each of its slots accepts both of two
related opcodes or neither. Whether such a template fits is the same for bodies
that are similar up to the relation.

Bodies that count as equal when they are submitted are similar, also where they
differ in the sign of a zero.
-/

namespace HandlerRecognition

section Rel

variable {α β γ δ : Type} {R : α → β → Prop} {a : Option α} {b : Option β}

theorem rel_imp {Q : α → β → Prop} (h : Option.Rel R a b)
    (hQ : ∀ x y, R x y → Q x y) : Option.Rel Q a b := by
  cases h with
  | none => exact .none
  | some hxy => exact .some (hQ _ _ hxy)

theorem rel_filter {p : α → Bool} {q : β → Bool} (h : Option.Rel R a b)
    (hpq : ∀ x y, R x y → p x = q y) :
    Option.Rel R (a.filter p) (b.filter q) := by
  cases h with
  | none => exact .none
  | @some x y hxy =>
      rw [Option.filter_some, Option.filter_some, hpq x y hxy]
      split
      · exact .some hxy
      · exact .none

theorem rel_bind {Q : γ → δ → Prop} {f : α → Option γ} {g : β → Option δ}
    (h : Option.Rel R a b) (hfg : ∀ x y, R x y → Option.Rel Q (f x) (g y)) :
    Option.Rel Q (a.bind f) (b.bind g) := by
  cases h with
  | none => exact .none
  | some hxy => exact hfg _ _ hxy

theorem rel_map {Q : γ → δ → Prop} {f : α → γ} {g : β → δ}
    (h : Option.Rel R a b) (hfg : ∀ x y, R x y → Q (f x) (g y)) :
    Option.Rel Q (a.map f) (b.map g) := by
  cases h with
  | none => exact .none
  | some hxy => exact .some (hfg _ _ hxy)

theorem bind_eq_of_rel {f : α → Option γ} {g : β → Option γ}
    (h : Option.Rel R a b) (hfg : ∀ x y, R x y → f x = g y) :
    a.bind f = b.bind g := by
  cases h with
  | none => rfl
  | some hxy => exact hfg _ _ hxy

theorem map_eq_of_rel {f : α → γ} {g : β → γ}
    (h : Option.Rel R a b) (hfg : ∀ x y, R x y → f x = g y) :
    a.map f = b.map g := by
  cases h with
  | none => rfl
  | some hxy => exact congrArg some (hfg _ _ hxy)

theorem any_eq_of_rel {f : α → Bool} {g : β → Bool}
    (h : Option.Rel R a b) (hfg : ∀ x y, R x y → f x = g y) :
    a.any f = b.any g := by
  cases h with
  | none => rfl
  | some hxy => exact hfg _ _ hxy

/-- Related lists are related at every position. -/
theorem rel_getElem?_of_forall₂ {l : List α} {l' : List β}
    (h : List.Forall₂ R l l') (n : Nat) : Option.Rel R l[n]? l'[n]? := by
  induction h generalizing n with
  | nil => exact .none
  | cons hxy _ ih =>
      cases n with
      | zero => exact .some hxy
      | succ n => simpa using ih n

theorem rel_find?_of_forall₂ {l : List α} {l' : List β} {p : α → Bool}
    {q : β → Bool} (h : List.Forall₂ R l l') (hpq : ∀ x y, R x y → p x = q y) :
    Option.Rel R (l.find? p) (l'.find? q) := by
  induction h with
  | nil => exact .none
  | @cons x y l l' hxy _ ih =>
      rw [List.find?_cons, List.find?_cons, hpq x y hxy]
      cases q y with
      | true => exact .some hxy
      | false => exact ih

end Rel

variable {S : Opcode → Opcode → Prop}

namespace Instruction

/-- Agreement in what verdicts depend on, with opcodes that are only related. -/
structure SimilarUpTo (S : Opcode → Opcode → Prop) (i j : Instruction) :
    Prop where
  opcode : S i.opcode j.opcode
  methodToken? : i.methodToken? = j.methodToken?
  memberToken? : i.memberToken? = j.memberToken?
  fieldToken? : i.fieldToken? = j.fieldToken?

/-- Agreement in what verdicts depend on. -/
abbrev Similar : Instruction → Instruction → Prop :=
  SimilarUpTo (· = ·)

theorem SimilarUpTo.refl (hS : ∀ o, S o o) (i : Instruction) :
    SimilarUpTo S i i :=
  ⟨hS _, rfl, rfl, rfl⟩

theorem similar_of_same {i j : Instruction} (h : i.same j = true) :
    i.Similar j := by
  simp only [same, Bool.and_eq_true, beq_iff_eq] at h
  have htoken : i.token? = j.token? := Operand.token?_eq_of_same h.2
  refine ⟨h.1.2, ?_, ?_, ?_⟩
  · simp only [methodToken?, htoken]
  · simp only [memberToken?, htoken]
  · simp only [fieldToken?, htoken]

end Instruction

namespace Body

variable {a b : Body}

/-- Equal length, and similarity at every position. -/
def SimilarUpTo (S : Opcode → Opcode → Prop) (a b : Body) : Prop :=
  List.Forall₂ (Instruction.SimilarUpTo S) a b

/-- Equal length, and at every position the same opcode and the same token of a
method, a member or a field. -/
abbrev Similar : Body → Body → Prop :=
  SimilarUpTo (· = ·)

theorem SimilarUpTo.refl (hS : ∀ o, S o o) (a : Body) : SimilarUpTo S a a :=
  List.forall₂_same.mpr fun i _ => .refl hS i

theorem similar_of_same (h : same a b = true) : a.Similar b := by
  induction a generalizing b with
  | nil =>
      cases b with
      | nil => exact .nil
      | cons j js => simp [same] at h
  | cons i is ih =>
      cases b with
      | nil => simp [same] at h
      | cons j js =>
          simp only [same, Bool.and_eq_true] at h
          exact .cons (Instruction.similar_of_same h.1) (ih h.2)

theorem SimilarUpTo.length_eq (h : SimilarUpTo S a b) : a.length = b.length :=
  List.Forall₂.length_eq h

theorem SimilarUpTo.isEmpty_eq (h : SimilarUpTo S a b) :
    a.isEmpty = b.isEmpty := by
  cases h <;> rfl

theorem SimilarUpTo.opcodes (h : SimilarUpTo S a b) :
    List.Forall₂ S a.opcodes b.opcodes := by
  rw [Body.opcodes, Body.opcodes, List.forall₂_map_left_iff,
    List.forall₂_map_right_iff]
  exact h.imp fun _ _ hij => hij.opcode

end Body

namespace Template

/-- No slot tells related opcodes apart. -/
def Indifferent (S : Opcode → Opcode → Prop) (t : Template) : Prop :=
  ∀ slot ∈ t.slots, ∀ o o', S o o' → slot.accepts o = slot.accepts o'

theorem indifferent_eq (t : Template) : t.Indifferent (· = ·) := by
  rintro slot - o _ rfl
  rfl

theorem all_accepts_congr {slots : List Slot} {os os' : List Opcode}
    (hslots : ∀ slot ∈ slots, ∀ o o', S o o' → slot.accepts o = slot.accepts o')
    (h : List.Forall₂ S os os') :
    ((slots.zip os).all fun e => e.1.accepts e.2) =
      (slots.zip os').all fun e => e.1.accepts e.2 := by
  induction h generalizing slots with
  | nil => rfl
  | @cons o o' os os' ho _ ih =>
      cases slots with
      | nil => rfl
      | cons slot slots =>
          obtain ⟨hslot, hslots⟩ := List.forall_mem_cons.mp hslots
          simp only [List.zip_cons_cons, List.all_cons, ih hslots,
            hslot o o' ho]

/-- A shape does not tell bodies with related opcodes apart. -/
theorem fitsAt_congr {t : Template} (ht : t.Indifferent S) {a b : Body}
    (h : List.Forall₂ S a.opcodes b.opcodes) (start : Nat) :
    t.fitsAt a start = t.fitsAt b start := by
  have hslots (body : Body) :
      ((t.slots.zip (body.drop start)).all fun e => e.1.accepts e.2.opcode) =
        (t.slots.zip (body.opcodes.drop start)).all fun e =>
          e.1.accepts e.2 := by
    simp only [Body.opcodes, ← List.map_drop, List.zip_map_right,
      List.all_map]
    rfl
  have hlength : a.length = b.length := by
    simpa [Body.opcodes] using h.length_eq
  simp only [fitsAt, hslots, hlength,
    all_accepts_congr ht (List.forall₂_drop start h)]

end Template

end HandlerRecognition
