import HandlerRecognition.Metadata.Store

/-!
# Stores with an index

`IndexedStore.build` goes through records once, kind by kind, and puts each of
them into a map from tokens. It stops at the first record that does not belong
there: its token is of the wrong table, its declaring type is not a type, or its
token is in the map already.

The fields of a type go into the map of fields before the type goes into the map
of types. The fields that stand alone come last and into the same map. A `Store`
has the same lookups without the maps.
-/

namespace HandlerRecognition

/-- A map from tokens, with the newest entry first. -/
structure TokenMap (α : Type) where
  entries : List (Token × α)

namespace TokenMap

variable {α : Type}

def empty : TokenMap α := ⟨[]⟩

def find? (x : TokenMap α) (t : Token) : Option α :=
  x.entries.lookup t

def size (x : TokenMap α) : Nat :=
  x.entries.length

/-- The map with one more entry, if its token is new. -/
def insertNew (x : TokenMap α) (t : Token) (a : α) :
    Except RecordFault (TokenMap α) :=
  if (x.find? t).isSome then .error (.duplicate t)
  else .ok ⟨(t, a) :: x.entries⟩

/-- Nothing, unless a token does not satisfy `fits`. -/
def expectTable (fits : Token → Bool) (t : Token) : Except RecordFault Unit :=
  if fits t then .ok () else .error (.wrongTable t)

/-- Nothing, unless a method is declared by something other than a type. -/
def expectOwner (m : MethodRecord) : Except RecordFault Unit :=
  match m.declaringType? with
  | some owner =>
    if owner.isType then .ok () else .error (.ownerNotType m.token owner)
  | none => .ok ()

/-- The map with one more record, if its token satisfies `fits` and is new. -/
def add (fits : Token → Bool) (token : α → Token) (x : TokenMap α) (a : α) :
    Except RecordFault (TokenMap α) := do
  expectTable fits (token a)
  x.insertNew (token a) a

def addMember : TokenMap MemberRecord → MemberRecord →
    Except RecordFault (TokenMap MemberRecord) :=
  add Token.isMember MemberRecord.token

def addField : TokenMap FieldRecord → FieldRecord →
    Except RecordFault (TokenMap FieldRecord) :=
  add Token.isField FieldRecord.token

def addMethod (x : TokenMap MethodRecord) (m : MethodRecord) :
    Except RecordFault (TokenMap MethodRecord) := do
  expectTable Token.isMethod m.token
  expectOwner m
  x.insertNew m.token m

/-- The maps of fields and of types with one more type and its fields. -/
def addType (maps : TokenMap FieldRecord × TokenMap TypeRecord)
    (t : TypeRecord) :
    Except RecordFault (TokenMap FieldRecord × TokenMap TypeRecord) := do
  expectTable Token.isType t.token
  let fields ← t.fields.foldlM addField maps.1
  let types ← maps.2.insertNew t.token t
  return (fields, types)

end TokenMap

/-- Records by their tokens, one map for each kind. -/
structure IndexedStore where
  methods : TokenMap MethodRecord
  members : TokenMap MemberRecord
  types : TokenMap TypeRecord
  /-- The fields that are listed on types and those that stand alone. -/
  fields : TokenMap FieldRecord

namespace IndexedStore

/-- The maps of a record set, or its first fault. -/
def ofRecordSet (rs : RecordSet) : Except RecordFault IndexedStore := do
  let methods ← rs.methods.foldlM TokenMap.addMethod .empty
  let members ← rs.members.foldlM TokenMap.addMember .empty
  let (fields, types) ← rs.types.foldlM TokenMap.addType (.empty, .empty)
  let fields ← rs.looseFields.foldlM TokenMap.addField fields
  return ⟨methods, members, types, fields⟩

def build (records : List Record) : Except RecordFault IndexedStore :=
  ofRecordSet (.ofList records)

def method? (x : IndexedStore) (t : Token) : Option MethodRecord :=
  x.methods.find? t

def member? (x : IndexedStore) (t : Token) : Option MemberRecord :=
  x.members.find? t

def type? (x : IndexedStore) (t : Token) : Option TypeRecord :=
  x.types.find? t

def field? (x : IndexedStore) (t : Token) : Option FieldRecord :=
  x.fields.find? t

def body? (x : IndexedStore) (t : Token) : Option Body :=
  (x.method? t).bind MethodRecord.body?

def fieldsOf? (x : IndexedStore) (t : Token) : Option (List FieldRecord) :=
  (x.type? t).map TypeRecord.fields

def baseOf? (x : IndexedStore) (t : Token) : Option TypeRecord :=
  ((x.type? t).bind TypeRecord.base?).bind x.type?

def methodCount (x : IndexedStore) : Nat :=
  x.methods.size

def typeCount (x : IndexedStore) : Nat :=
  x.types.size

end IndexedStore

end HandlerRecognition
