import HandlerRecognition.Catalog.Basic

/-!
# The built-in templates

The interpreters recognised here keep their stack in a field of the virtual
machine, which is the first argument of every handler, and reach it through
helper methods that push, pop and peek. They wrap every value in an operand
object. The built-in templates describe the handlers of eight opcodes, and three
internal templates describe what the helpers look like inside.
-/

namespace HandlerRecognition

namespace Builtin

def ldstrName : String := "Ldstr"

/-- The name of the internal template of the helper that ends the
interpreter. -/
def enableReturnName : String := "EnableReturnFromVMMethod"

def retName : String := "Ret"

def ldnullName : String := "Ldnull"

def ldcI4ZeroName : String := "LdcI4Zero"

def peekStackName : String := "PeekStack"

def popStackName : String := "PopStack"

def dupName : String := "Dup"

def popName : String := "Pop"

def ldtokenName : String := "Ldtoken"

def boxName : String := "Box"

/-- Reads a string number off the operand, has the string resolved, wraps it and
pushes the wrapper. -/
def ldstr : Template :=
  (Template.entire ldstrName (some .ldstr)
    [.ldarg1, .castclass, .callvirt, .stloc0, .ldarg0, .ldloc0, .callvirt,
      .stloc1, .ldarg0, .newobj, .dup, .ldloc1, .callvirt, .callvirt,
      .ret]).verifiedBy (.inspection .resolvesString)

/-- Sets a flag of the virtual machine. -/
def enableReturn : Template :=
  (Template.entire enableReturnName none
    [.ldarg0, .ldcI41, .stfld, .ret]).verifiedBy (.inspection .setsFlag)

/-- Calls the helper that ends the interpreter. -/
def ret : Template :=
  (Template.entire retName (some .ret)
    [.ldarg0, .callvirt, .ret]).verifiedBy (.delegation .endsInterpreter)

/-- Pushes a new wrapper of an object. -/
def ldnull : Template :=
  (Template.entire ldnullName (some .ldnull)
    [.ldarg0, .newobj, .callvirt, .ret]).verifiedBy (.inspection .wrapsObject)

/-- Pushes a new wrapper of an integer. -/
def ldcI4Zero : Template :=
  (Template.entire ldcI4ZeroName (some .ldcI40)
    [.ldarg0, .newobj, .callvirt, .ret]).verifiedBy (.inspection .wrapsInteger)

/-- Reads the top of the stack, inside a helper. -/
def peekStack : Template :=
  (Template.window peekStackName none
    [.ldarg0, .ldfld, .callvirt]).verifiedBy (.inspection .readsTop)

/-- Takes the top off the stack, inside a helper. -/
def popStack : Template :=
  (Template.window popStackName none
    [.ldarg0, .ldfld, .callvirt]).verifiedBy (.inspection .takesTop)

/-- Reads the top of the stack, copies it and pushes the copy. -/
def dup : Template :=
  (Template.entire dupName (some .dup)
    [.ldarg0, .callvirt, .stloc0, .ldarg0, .ldloc0, .callvirt, .callvirt,
      .ret]).verifiedBy (.delegation .readsTopOnce)

/-- Takes the top off the stack and drops it. -/
def pop : Template :=
  (Template.entire popName (some .pop)
    [.ldarg0, .callvirt, .pop, .ret]).verifiedBy (.delegation .takesTopOnce)

/-- Resolves a field and boxes its handle, anywhere in the body. -/
def ldtoken : Template :=
  (((Template.window ldtokenName (some .ldtoken)
    [.ldarg0, .ldloc0, .callvirt, .callvirt, .box, .stloc2]).interchange
      .locals).anchored .scan).verifiedBy (.inspection .loadsFieldHandle)

/-- Resolves a type, pops a value, boxes the value as the type, wraps the result
and pushes the wrapper. -/
def box : Template :=
  ((Template.entire boxName (some .box)
    [.ldarg1, .castclass, .callvirt, .stloc0, .ldarg0, .ldloc0, .ldcI41,
      .callvirt, .stloc1, .ldarg0, .callvirt, .callvirt, .ldloc1, .call,
      .stloc2, .ldloc2, .ldloc1, .callvirt, .ldarg0, .ldloc2, .callvirt,
      .ret]).interchange .locals).verifiedBy (.inspection .boxesAsType)

def templates : List Template :=
  [ldstr, enableReturn, ret, ldnull, ldcI4Zero, peekStack, popStack, dup, pop,
    ldtoken, box]

theorem fault?_templates : Catalog.fault? [] templates = none := by
  decide

def catalog : Catalog := ⟨templates, fault?_templates⟩

def verifier? (name : String) : Option Verifier :=
  (catalog.find? name).bind Template.verifier?

end Builtin

end HandlerRecognition
