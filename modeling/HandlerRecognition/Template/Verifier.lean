/-!
# Verifiers

A verifier is a further condition on a place where the shape of a template fits.
It is a value and not a function: what it asks of the place is said where places
are known. Some verifiers have a constant answer, some look up metadata of the
operands, and some have another template matched in the body of a method that is
called. Only the last kind can lead to further verifiers.
-/

namespace HandlerRecognition

/-- The verifiers that only look up metadata. -/
inductive Inspection where
  /-- A called method returns a string. -/
  | resolvesString
  /-- A field of truth values is set. -/
  | setsFlag
  /-- A wrapper of an object is constructed. -/
  | wrapsObject
  /-- A wrapper of a 32-bit integer is constructed. -/
  | wrapsInteger
  /-- The top of the stack is read through its accessor. -/
  | readsTop
  /-- The top of the stack is taken off through its accessor. -/
  | takesTop
  /-- The handle of a field is loaded. -/
  | loadsFieldHandle
  /-- A value is boxed as a type. -/
  | boxesAsType
  deriving DecidableEq

/-- The verifiers that have a template matched in the body of a helper
method. -/
inductive Delegation where
  /-- The helper sets the flag that ends the interpreter. -/
  | endsInterpreter
  /-- The helper reads the top of the stack exactly once. -/
  | readsTopOnce
  /-- The helper takes the top off the stack exactly once. -/
  | takesTopOnce
  deriving DecidableEq

/-- A further condition on a place where a shape fits. -/
inductive Verifier where
  | constant (answer : Bool)
  | inspection (inspection : Inspection)
  | delegation (delegation : Delegation)
  deriving DecidableEq

namespace Verifier

def accept : Verifier := .constant true

def reject : Verifier := .constant false

end Verifier

end HandlerRecognition
