import HandlerRecognition.Instruction.Basic
import HandlerRecognition.Decimal.Layout
import HandlerRecognition.Text.List

/-!
# Instructions as text

`Instruction.text` is the line of a listing: the offset, the mnemonic and the
operand in short form. `Operand.description` and `Immediate.description` name
the kind of the operand as well.
-/

namespace HandlerRecognition

namespace Immediate

/-- Floating-point constants are written in place from `1e-4` up to and not
including `1e16`. -/
def layout : Decimal.Layout := ⟨-4, 16⟩

def description : Immediate → String
  | .int8 v => "Int8(" ++ toString v.toInt ++ ")"
  | .uint8 v => "UInt8(" ++ toString v.toNat ++ ")"
  | .uint16 v => "UInt16(" ++ toString v.toNat ++ ")"
  | .int32 v => "Int32(" ++ toString v.toInt ++ ")"
  | .int64 v => "Int64(" ++ toString v.toInt ++ ")"
  | .float32 w => "Float32(" ++ layout.word Binary.single w.toNat ++ ")"
  | .float64 w => "Float64(" ++ layout.word Binary.double w.toNat ++ ")"

end Immediate

namespace Operand

def description : Operand → String
  | .none => "None"
  | .immediate v => "Immediate(" ++ v.description ++ ")"
  | .target offset => "Target(" ++ toString offset.toNat ++ ")"
  | .token t => "Token(" ++ t.description ++ ")"
  | .localVariable index => "Local(" ++ toString index.toNat ++ ")"
  | .argument index => "Argument(" ++ toString index.toNat ++ ")"
  | .switch targets =>
    "Switch(" ++
      Text.bracketed (targets.map fun target => toString target.toInt) ++ ")"

end Operand

namespace Instruction

/-- An offset as it stands in a listing. -/
def offsetText (offset : UInt32) : String :=
  "IL_" ++ Text.hexUpper 4 offset.toNat

/-- The operand as it stands in a listing, with a space in front. -/
def operandText : Operand → String
  | .none => ""
  | .immediate v => " " ++ v.description
  | .target offset => " " ++ offsetText offset
  | .token t => " " ++ t.text
  | .localVariable index => " V_" ++ toString index.toNat
  | .argument index => " A_" ++ toString index.toNat
  | .switch targets => " switch(" ++ toString targets.length ++ ")"

/-- The line of a listing. -/
def text (i : Instruction) : String :=
  offsetText i.offset ++ ": " ++ i.opcode.mnemonic ++ operandText i.operand

end Instruction

end HandlerRecognition
