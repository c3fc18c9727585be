/-!
# Method signatures

A signature holds the full name of the return type and those of the parameter
types. A method without a return type returns nothing, and then the name of the
return type is that of the type without values. Types are compared by name.
-/

namespace HandlerRecognition

structure Signature where
  /-- The full name of the return type, if a value is returned. -/
  returnType? : Option String
  /-- The full names of the parameter types, in order. -/
  parameters : List String
  deriving DecidableEq

namespace Signature

def voidName : String := "System.Void"

def returnsValue (s : Signature) : Bool :=
  s.returnType?.isSome

/-- Whether a value of the named type is returned. -/
def returns (s : Signature) (typeName : String) : Bool :=
  s.returnType? == some typeName

/-- Whether the parameters are of the named types, in order. -/
def takes (s : Signature) (typeNames : List String) : Bool :=
  s.parameters == typeNames

def returnTypeName (s : Signature) : String :=
  s.returnType?.getD voidName

@[simp] theorem takes_iff {s : Signature} {typeNames : List String} :
    s.takes typeNames = true ↔ s.parameters = typeNames := by
  simp [takes]

@[simp] theorem returns_iff {s : Signature} {typeName : String} :
    s.returns typeName = true ↔ s.returnType? = some typeName := by
  simp [returns]

end Signature

end HandlerRecognition
