import HandlerRecognition.Opcode.Basic

/-!
# Families of interchangeable opcodes

An optimiser is free to renumber local variables, and the short forms of the
instructions that load and store them then change with the number. A `Family`
holds all the forms of one such instruction. No opcode is in two families, so
`Family.of?` is a function of the opcode.
-/

namespace HandlerRecognition

/-- A set of opcodes that differ only in how they number a local variable. -/
inductive Family where
  | loadLocal
  | storeLocal
  deriving DecidableEq

namespace Family

def members : Family → List Opcode
  | .loadLocal => [.ldloc0, .ldloc1, .ldloc2, .ldloc3, .ldlocS, .ldloc]
  | .storeLocal => [.stloc0, .stloc1, .stloc2, .stloc3, .stlocS, .stloc]

def contains (f : Family) (o : Opcode) : Bool :=
  f.members.contains o

def all : List Family :=
  [.loadLocal, .storeLocal]

def of? (o : Opcode) : Option Family :=
  all.find? fun f => f.contains o

/-- The family written as a pattern for mnemonics. -/
def text : Family → String
  | .loadLocal => "<ldloc*>"
  | .storeLocal => "<stloc*>"

def ofText? (pattern : String) : Option Family :=
  all.find? fun f => f.text == pattern

/-- The name of the family in structured descriptions. -/
def label : Family → String
  | .loadLocal => "LoadLocal"
  | .storeLocal => "StoreLocal"

@[simp] theorem mem_all (f : Family) : f ∈ all := by
  cases f <;> simp [all]

@[simp] theorem contains_iff {f : Family} {o : Opcode} :
    f.contains o = true ↔ o ∈ f.members := by
  simp [contains]

/-- The family of an opcode is the only one that contains it. -/
theorem of?_eq_some_iff {o : Opcode} {f : Family} :
    of? o = some f ↔ f.contains o = true := by
  cases o <;> cases f <;> decide

end Family

end HandlerRecognition
