import HandlerRecognition.Matching.Site
import HandlerRecognition.Template.Verifier

/-!
# Inspections

What the verifiers that only look up metadata ask of a site. Types and accessors
are told apart by their full names.
-/

namespace HandlerRecognition

namespace Inspection

def int32Name : String := "System.Int32"

def objectName : String := "System.Object"

def stringName : String := "System.String"

def typeName : String := "System.Type"

def booleanName : String := "System.Boolean"

def fieldInfoName : String := "System.Reflection.FieldInfo"

def peekName : String := "Peek"

def popName : String := "Pop"

def fieldHandleAccessor : String :=
  "System.RuntimeFieldHandle System.Reflection.FieldInfo::get_FieldHandle()"

/-- Whether a type has exactly two fields, a 32-bit integer and a type. The base
of all wrappers is such a type. -/
def isWrapperBase (base : TypeRecord) : Bool :=
  base.fields.length == 2 && base.countFields int32Name == 1 &&
    base.countFields typeName == 1

/-- Whether a type has exactly one field, of the named type. -/
def wrapsOnly (valueName : String) (wrapper : TypeRecord) : Bool :=
  match wrapper.fields with
  | [field] => field.isOfType valueName
  | _ => false

/-- Whether the site constructs a wrapper of a value of the named type. -/
def constructsWrapper (s : Site) (valueName : String) : Bool :=
  (s.constructedType? 1).any fun wrapper =>
    wrapsOnly valueName wrapper &&
      (s.env.store.baseOf? wrapper.token).any isWrapperBase

/-- The name and the signature of what the instruction at an offset calls, be it
of this module or of another. -/
def called? (s : Site) (offset : Nat) : Option (String × Signature) :=
  ((s.member? offset).map fun m => (m.name, m.signature)) <|>
    (s.method? offset).map fun m => (m.name, m.signature)

/-- Whether the site calls the named accessor and gets a value from it. -/
def readsThrough (s : Site) (accessor : String) : Bool :=
  (called? s 2).any fun (name, signature) =>
    name == accessor && signature.returnsValue

def holds (s : Site) : Inspection → Bool
  | .resolvesString => s.returnsType 6 stringName
  | .setsFlag => (s.field? 2).any fun f => f.isOfType booleanName
  | .wrapsObject => constructsWrapper s objectName
  | .wrapsInteger => constructsWrapper s int32Name
  | .readsTop => readsThrough s peekName
  | .takesTop => readsThrough s popName
  | .loadsFieldHandle =>
    s.returnsType 2 fieldInfoName &&
      (s.member? 3).any fun m => m.fullName == fieldHandleAccessor
  | .boxesAsType =>
    s.returnsType 7 typeName && s.takesTypes 13 [objectName, typeName]

/-- Of the environment, an inspection looks at the store only. -/
theorem holds_eq_of_store_eq {env env' : Environment}
    (h : env.store = env'.store) (i : Inspection) (body : Body) (start : Nat) :
    i.holds ⟨env, body, start⟩ = i.holds ⟨env', body, start⟩ := by
  cases i <;>
    simp only [holds, constructsWrapper, readsThrough, called?,
      Site.constructedType?, Site.returnsType, Site.takesTypes, Site.method?,
      Site.member?, Site.field?, Site.methodToken?, Site.instruction?, h]

end Inspection

end HandlerRecognition
