import HandlerRecognition.Opcode.Family

/-!
# Slots

A slot is what a template expects at one position: one opcode, or any opcode of
a family. An `Interchange` is a set of families given by bits. It turns the
exact slots of its families into slots for the whole family and leaves all other
slots alone.
-/

namespace HandlerRecognition

/-- The opcodes that are acceptable at one position. -/
inductive Slot where
  | exact (opcode : Opcode)
  | family (family : Family)
  deriving DecidableEq

namespace Slot

def accepts : Slot → Opcode → Bool
  | .exact expected, o => expected == o
  | .family f, o => f.contains o

/-- The slot as a mnemonic or a pattern for mnemonics. -/
def text : Slot → String
  | .exact o => o.mnemonic
  | .family f => f.text

def description : Slot → String
  | .exact o => "Exact(" ++ o.label ++ ")"
  | .family f => "Class(" ++ f.label ++ ")"

def ofText? (text : String) : Option Slot :=
  match Family.ofText? text with
  | some f => some (.family f)
  | none => (Opcode.ofMnemonic? text).map .exact

end Slot

/-- A set of families, one bit for each. Other bits mean nothing. -/
structure Interchange where
  bits : UInt8
  deriving DecidableEq

namespace Interchange

def bit : Family → UInt8
  | .loadLocal => 0x01
  | .storeLocal => 0x02

def contains (x : Interchange) (f : Family) : Bool :=
  x.bits &&& bit f == bit f

/-- The set of all families. -/
def locals : Interchange :=
  ⟨bit .loadLocal ||| bit .storeLocal⟩

/-- The families of both sets. -/
def union (x y : Interchange) : Interchange :=
  ⟨x.bits ||| y.bits⟩

/-- The slot that accepts the whole family of an exact slot, if the family is in
the set. -/
def widen (x : Interchange) : Slot → Slot
  | .exact o =>
    match Family.of? o with
    | some f => if x.contains f then .family f else .exact o
    | none => .exact o
  | .family f => .family f

end Interchange

end HandlerRecognition
