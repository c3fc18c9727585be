import HandlerRecognition.Instruction.Body
import Mathlib.Logic.Equiv.Basic

/-!
# Renumbering tokens

Which row of its table a token names means nothing by itself. A `Renumbering`
permutes the tokens and keeps the table of each, so it keeps what kind of record
a token refers to, and whether two tokens are equal. A body is renumbered in the
operands of its instructions. Its opcodes stay, a token that is looked for in an
operand is found renumbered, and bodies count as equal if they did before.
-/

namespace HandlerRecognition

/-- A permutation of the tokens that keeps the table of each. -/
structure Renumbering where
  perm : Equiv.Perm Token
  table_perm (t : Token) : (perm t).table = t.table

namespace Renumbering

instance : CoeFun Renumbering fun _ => Token → Token := ⟨fun p => p.perm⟩

/-- The renumbering that exchanges two tokens of one table. -/
def exchange (a b : Token) (h : a.table = b.table) : Renumbering where
  perm := Equiv.swap a b
  table_perm t := by
    rw [Equiv.swap_apply_def]
    split_ifs with ha hb
    · rw [ha, h]
    · rw [hb, h]
    · rfl

variable (p : Renumbering)

@[simp] theorem isMethod_apply (t : Token) : (p t).isMethod = t.isMethod := by
  simp only [Token.isMethod, p.table_perm]

@[simp] theorem isMember_apply (t : Token) : (p t).isMember = t.isMember := by
  simp only [Token.isMember, p.table_perm]

@[simp] theorem isField_apply (t : Token) : (p t).isField = t.isField := by
  simp only [Token.isField, p.table_perm]

@[simp] theorem isType_apply (t : Token) : (p t).isType = t.isType := by
  simp only [Token.isType, p.table_perm]

@[simp] theorem beq_apply (t u : Token) : (p t == p u) = (t == u) :=
  p.perm.injective.beq_eq

/-- A token that is kept for its kind is kept after renumbering as well. -/
theorem filter_map_apply {isKind : Token → Bool}
    (h : ∀ t, isKind (p t) = isKind t) (t? : Option Token) :
    (t?.map p).filter isKind = (t?.filter isKind).map p := by
  rw [Option.filter_map, Function.comp_def]
  simp only [h]

end Renumbering

variable (p : Renumbering)

namespace Operand

def renumber : Operand → Operand
  | .token t => .token (p t)
  | o => o

@[simp] theorem token?_renumber (o : Operand) :
    (o.renumber p).token? = o.token?.map p := by
  cases o <;> rfl

theorem same_renumber (o o' : Operand) :
    (o.renumber p).same (o'.renumber p) = o.same o' := by
  cases o <;> cases o' <;> simp [renumber, same]

end Operand

namespace Instruction

def renumber (i : Instruction) : Instruction :=
  { i with operand := i.operand.renumber p }

@[simp] theorem opcode_renumber (i : Instruction) :
    (i.renumber p).opcode = i.opcode := rfl

@[simp] theorem methodToken?_renumber (i : Instruction) :
    (i.renumber p).methodToken? = i.methodToken?.map p := by
  simp only [methodToken?, token?, renumber, Operand.token?_renumber,
    p.filter_map_apply p.isMethod_apply]

@[simp] theorem memberToken?_renumber (i : Instruction) :
    (i.renumber p).memberToken? = i.memberToken?.map p := by
  simp only [memberToken?, token?, renumber, Operand.token?_renumber,
    p.filter_map_apply p.isMember_apply]

@[simp] theorem fieldToken?_renumber (i : Instruction) :
    (i.renumber p).fieldToken? = i.fieldToken?.map p := by
  simp only [fieldToken?, token?, renumber, Operand.token?_renumber,
    p.filter_map_apply p.isField_apply]

theorem same_renumber (i j : Instruction) :
    (i.renumber p).same (j.renumber p) = i.same j := by
  simp only [same, renumber, Operand.same_renumber]

end Instruction

namespace Body

def renumber (body : Body) : Body :=
  body.map (Instruction.renumber p)

@[simp] theorem renumber_cons (i : Instruction) (is : Body) :
    renumber p (i :: is) = i.renumber p :: renumber p is := rfl

@[simp] theorem length_renumber (body : Body) :
    (body.renumber p).length = body.length := by
  simp [renumber]

@[simp] theorem isEmpty_renumber (body : Body) :
    (body.renumber p).isEmpty = body.isEmpty := by
  simp [renumber]

@[simp] theorem opcodes_renumber (body : Body) :
    (body.renumber p).opcodes = body.opcodes := by
  simp [renumber, opcodes]

@[simp] theorem getElem?_renumber (body : Body) (n : Nat) :
    (body.renumber p)[n]? = body[n]?.map (Instruction.renumber p) := by
  simp [renumber]

theorem same_renumber (a b : Body) :
    same (a.renumber p) (b.renumber p) = same a b := by
  induction a generalizing b with
  | nil => cases b <;> rfl
  | cons i is ih =>
      cases b with
      | nil => rfl
      | cons j js =>
          simp only [renumber_cons, same, Instruction.same_renumber, ih]

theorem same?_renumber (a? b? : Option Body) :
    same? (a?.map (renumber p)) (b?.map (renumber p)) = same? a? b? := by
  cases a? <;> cases b? <;> simp [same?, same_renumber]

end Body

end HandlerRecognition
