import HandlerRecognition.Instruction.Body
import HandlerRecognition.Metadata.Signature
import HandlerRecognition.Text.List

/-!
# Metadata records

The records are what a verifier can learn about the target of a token: for a
method its name, declaring type, signature and body; for a member of another
module its parent, name and signature; for a type its base and its fields; for a
field its type. Types are named by their full names.

A field listed on a type is declared by that type, whatever the listed record
says, so `TypeRecord.fields` fills in the declaring type.
-/

namespace HandlerRecognition

structure MethodRecord where
  token : Token
  name : String
  declaringType? : Option Token
  signature : Signature
  /-- The decoded body, absent for a method without one. -/
  body? : Option Body

/-- A member of another module. -/
structure MemberRecord where
  token : Token
  /-- The full name of the declaring type. -/
  parent : String
  name : String
  signature : Signature

structure FieldRecord where
  token : Token
  name : String
  /-- The full name of the type of the field. -/
  typeName : String
  declaringType? : Option Token
  deriving DecidableEq

structure TypeRecord where
  token : Token
  /-- The namespace, empty for the global one. -/
  qualifier : String
  name : String
  base? : Option Token
  /-- The fields as they were listed. -/
  listed : List FieldRecord

inductive Record where
  | method (record : MethodRecord)
  | member (record : MemberRecord)
  | type (record : TypeRecord)
  | field (record : FieldRecord)

namespace MethodRecord

def constructorName : String := ".ctor"

def isConstructor (m : MethodRecord) : Bool :=
  m.name == constructorName

end MethodRecord

namespace MemberRecord

/-- The return type, the parent, the name and the parameter types in one
line. -/
def fullName (m : MemberRecord) : String :=
  m.signature.returnTypeName ++ " " ++ m.parent ++ "::" ++ m.name ++ "(" ++
    Text.commaSeparated m.signature.parameters ++ ")"

end MemberRecord

namespace FieldRecord

def isOfType (f : FieldRecord) (typeName : String) : Bool :=
  f.typeName == typeName

/-- The field as declared by a type. -/
def declaredBy (f : FieldRecord) (owner : Token) : FieldRecord :=
  { f with declaringType? := some owner }

@[simp] theorem token_declaredBy (f : FieldRecord) (owner : Token) :
    (f.declaredBy owner).token = f.token := rfl

end FieldRecord

namespace TypeRecord

def fields (t : TypeRecord) : List FieldRecord :=
  t.listed.map fun f => f.declaredBy t.token

/-- The name with the namespace in front, if there is one. -/
def fullName (t : TypeRecord) : String :=
  if t.qualifier = "" then t.name else t.qualifier ++ "." ++ t.name

def countFields (t : TypeRecord) (typeName : String) : Nat :=
  t.fields.countP fun f => f.isOfType typeName

@[simp] theorem length_fields (t : TypeRecord) :
    t.fields.length = t.listed.length := by
  simp [fields]

end TypeRecord

end HandlerRecognition
