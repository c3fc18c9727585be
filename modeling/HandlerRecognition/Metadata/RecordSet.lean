import HandlerRecognition.Metadata.Record

/-!
# Record sets and their faults

A `RecordSet` holds records by kind, each kind in the order in which its records
were added. `RecordSet.fault?` is the first thing wrong with it. A token may be
of the wrong table for its record, a method may be declared by something other
than a type, and a token may occur twice.

Methods are examined first, then members, types and fields. The fields of a type
are examined before the token of the type is looked for among the types so far,
and they share their tokens with the fields that stand alone. The examination
stops at the first fault.
-/

namespace HandlerRecognition

/-- What may be wrong with a set of records. -/
inductive RecordFault where
  /-- A token that is not of the table of its record. -/
  | wrongTable (token : Token)
  /-- A method that is declared by something other than a type. -/
  | ownerNotType (method owner : Token)
  /-- A token that an earlier record of the same kind has. -/
  | duplicate (token : Token)
  deriving DecidableEq

namespace RecordFault

/-- The wording of a fault. A record that contradicts itself is reported with
the place at which it was examined. -/
def message (place : String) : RecordFault → String
  | .wrongTable t =>
    "Token " ++ t.text ++ " does not belong to the expected table"
  | .ownerNotType method owner =>
    "Malformed - " ++ place ++ ": Method " ++ method.text ++
      " declared by non-type token " ++ owner.text
  | .duplicate t => "Token " ++ t.text ++ " is already registered"

end RecordFault

/-- Records by kind, each kind in order of addition. -/
structure RecordSet where
  methods : List MethodRecord
  members : List MemberRecord
  types : List TypeRecord
  /-- The fields that are not listed on a type. -/
  looseFields : List FieldRecord

namespace RecordSet

def ofList (records : List Record) : RecordSet where
  methods := records.filterMap fun | .method m => some m | _ => none
  members := records.filterMap fun | .member m => some m | _ => none
  types := records.filterMap fun | .type t => some t | _ => none
  looseFields := records.filterMap fun | .field f => some f | _ => none

/-- All fields, those listed on types first. -/
def fields (rs : RecordSet) : List FieldRecord :=
  rs.types.flatMap TypeRecord.fields ++ rs.looseFields

/-- The fault of a token that must satisfy `fits` and must not be in `seen`. -/
def tokenFault? (fits : Token → Bool) (seen : List Token) (t : Token) :
    Option RecordFault :=
  if fits t then
    if seen.contains t then some (.duplicate t) else none
  else some (.wrongTable t)

/-- The first fault in a list of tokens that must satisfy `fits` and must be
neither in `seen` nor repeated. -/
def tokensFault? (fits : Token → Bool) (seen : List Token) :
    List Token → Option RecordFault
  | [] => none
  | t :: ts =>
    match tokenFault? fits seen t with
    | some fault => some fault
    | none => tokensFault? fits (t :: seen) ts

/-- The fault of a method, given the tokens of the methods before it. The
declaring type is looked at only if the token is of the right table. -/
def methodFault? (seen : List Token) (m : MethodRecord) : Option RecordFault :=
  match m.token.isMethod, m.declaringType? with
  | true, some owner =>
    if owner.isType then tokenFault? Token.isMethod seen m.token
    else some (.ownerNotType m.token owner)
  | _, _ => tokenFault? Token.isMethod seen m.token

/-- The first fault in a list of methods, given the tokens of the methods before
it. -/
def methodsFault? (seen : List Token) :
    List MethodRecord → Option RecordFault
  | [] => none
  | m :: ms =>
    match methodFault? seen m with
    | some fault => some fault
    | none => methodsFault? (m.token :: seen) ms

def fieldTokens (t : TypeRecord) : List Token :=
  t.fields.map FieldRecord.token

/-- The fault of a type, given the tokens of the fields and of the types before
it. A repeated token of the type itself comes last. -/
def typeFault? (seenFields seenTypes : List Token) (t : TypeRecord) :
    Option RecordFault :=
  if t.token.isType then
    match tokensFault? Token.isField seenFields (fieldTokens t) with
    | some fault => some fault
    | none => tokenFault? Token.isType seenTypes t.token
  else some (.wrongTable t.token)

/-- The first fault in a list of types, given the tokens of the fields and of
the types before it. -/
def typesFault? (seenFields seenTypes : List Token) :
    List TypeRecord → Option RecordFault
  | [] => none
  | t :: ts =>
    match typeFault? seenFields seenTypes t with
    | some fault => some fault
    | none => typesFault? (fieldTokens t ++ seenFields) (t.token :: seenTypes) ts

def fault? (rs : RecordSet) : Option RecordFault :=
  methodsFault? [] rs.methods <|>
  tokensFault? Token.isMember [] (rs.members.map MemberRecord.token) <|>
  typesFault? [] [] rs.types <|>
  tokensFault? Token.isField (rs.types.flatMap fieldTokens)
    (rs.looseFields.map FieldRecord.token)

end RecordSet

end HandlerRecognition
