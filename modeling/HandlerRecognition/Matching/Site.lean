import HandlerRecognition.Matching.Environment

/-!
# Sites

A `Site` is a place in a body where the shape of a template fits. Offsets count
from the start of the site, so the instruction at offset `n` is the one that
slot `n` accepted. Everything a verifier can ask of a site may have no answer:
the offset may be past the end, the operand may be of another kind, or the store
may not know the token.
-/

namespace HandlerRecognition

/-- A place in a body that a verifier looks at. -/
structure Site where
  env : Environment
  body : Body
  start : Nat

namespace Site

def instruction? (s : Site) (offset : Nat) : Option Instruction :=
  s.body[s.start + offset]?

def methodToken? (s : Site) (offset : Nat) : Option Token :=
  (s.instruction? offset).bind Instruction.methodToken?

def method? (s : Site) (offset : Nat) : Option MethodRecord :=
  (s.methodToken? offset).bind s.env.store.method?

/-- The member of another module that the instruction at an offset refers to. -/
def member? (s : Site) (offset : Nat) : Option MemberRecord :=
  ((s.instruction? offset).bind Instruction.memberToken?).bind
    s.env.store.member?

def field? (s : Site) (offset : Nat) : Option FieldRecord :=
  ((s.instruction? offset).bind Instruction.fieldToken?).bind
    s.env.store.field?

/-- The type whose constructor the instruction at an offset refers to. -/
def constructedType? (s : Site) (offset : Nat) : Option TypeRecord :=
  (((s.method? offset).filter MethodRecord.isConstructor).bind
    MethodRecord.declaringType?).bind s.env.store.type?

/-- Whether the method at an offset returns a value of the named type. -/
def returnsType (s : Site) (offset : Nat) (typeName : String) : Bool :=
  (s.method? offset).any fun m => m.signature.returns typeName

def takesTypes (s : Site) (offset : Nat) (typeNames : List String) : Bool :=
  (s.method? offset).any fun m => m.signature.takes typeNames

/-- The template with a name, together with the body of the method at an offset
in which it is to be matched. -/
def helper? (s : Site) (offset : Nat) (name : String) :
    Option (Template × Body) :=
  (s.env.catalog.find? name).bind fun t =>
    ((s.methodToken? offset).bind s.env.store.body?).map fun body => (t, body)

end Site

end HandlerRecognition
