import HandlerRecognition.Opcode.Basic
import HandlerRecognition.Token
import HandlerRecognition.Decimal.Binary

/-!
# Instructions

An instruction is an opcode with an operand, at an offset in its method. Shapes
look at the opcode only. Verifiers look at the operand, and only at a token in
it: `Instruction.methodToken?` and its companions give that token if it refers
to a record of the right kind.

Floating-point operands are kept as words. `Instruction.same` is the equality
under which two submissions of one handler count as the same. It compares
floating-point operands as numbers, so it is not reflexive, and it identifies
operands that differ in the sign of a zero.
-/

namespace HandlerRecognition

inductive Immediate where
  | int8 (value : Int8)
  | uint8 (value : UInt8)
  | uint16 (value : UInt16)
  | int32 (value : Int32)
  | int64 (value : Int64)
  | float32 (word : UInt32)
  | float64 (word : UInt64)
  deriving DecidableEq

namespace Immediate

/-- The value of an integral constant. -/
def toInt? : Immediate → Option Int
  | .int8 v => some v.toInt
  | .uint8 v => some v.toNat
  | .uint16 v => some v.toNat
  | .int32 v => some v.toInt
  | .int64 v => some v.toInt
  | .float32 _ | .float64 _ => none

/-- Whether two constants are of one kind and equal as numbers. -/
def same : Immediate → Immediate → Bool
  | .float32 v, .float32 w => Binary.single.sameNumber v.toNat w.toNat
  | .float64 v, .float64 w => Binary.double.sameNumber v.toNat w.toNat
  | a, b => a == b

end Immediate

inductive Operand where
  | none
  | immediate (value : Immediate)
  /-- The offset that a branch leads to. -/
  | target (offset : UInt32)
  | token (token : Token)
  | localVariable (index : UInt16)
  | argument (index : UInt16)
  /-- The relative targets of a switch. -/
  | switch (targets : List Int32)
  deriving DecidableEq

namespace Operand

def token? : Operand → Option Token
  | .token t => some t
  | _ => Option.none

def immediate? : Operand → Option Immediate
  | .immediate v => some v
  | _ => Option.none

/-- Whether two operands are equal, with constants compared as numbers. -/
def same : Operand → Operand → Bool
  | .immediate v, .immediate w => v.same w
  | a, b => a == b

end Operand

/-- A decoded instruction of a method body. -/
structure Instruction where
  offset : UInt32
  opcode : Opcode
  operand : Operand
  deriving DecidableEq

namespace Instruction

def token? (i : Instruction) : Option Token :=
  i.operand.token?

/-- The token in the operand, if it refers to a method. -/
def methodToken? (i : Instruction) : Option Token :=
  i.token?.filter Token.isMethod

/-- The token in the operand, if it refers to a member of another module. -/
def memberToken? (i : Instruction) : Option Token :=
  i.token?.filter Token.isMember

def fieldToken? (i : Instruction) : Option Token :=
  i.token?.filter Token.isField

def typeToken? (i : Instruction) : Option Token :=
  i.token?.filter Token.isType

def immediate? (i : Instruction) : Option Immediate :=
  i.operand.immediate?

def same (i j : Instruction) : Bool :=
  i.offset == j.offset && i.opcode == j.opcode && i.operand.same j.operand

end Instruction

end HandlerRecognition
