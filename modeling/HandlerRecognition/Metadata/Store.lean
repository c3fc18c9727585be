import HandlerRecognition.Metadata.RecordSet

/-!
# Metadata stores

A `Store` is a record set without a fault, so tokens of one kind of record are
all different and all of the right table. It answers what a token refers to, and
a token that it does not know has no answer. That is not an error: a verifier
that asks for it just fails.
-/

namespace HandlerRecognition

/-- A record set without a fault. -/
structure Store where
  records : RecordSet
  sound : records.fault? = none

namespace Store

/-- The store of a record set, or the first fault of the set. -/
def ofRecordSet (rs : RecordSet) : Except RecordFault Store :=
  match h : rs.fault? with
  | none => .ok ⟨rs, h⟩
  | some fault => .error fault

def build (records : List Record) : Except RecordFault Store :=
  ofRecordSet (.ofList records)

def empty : Store := ⟨.ofList [], rfl⟩

def method? (s : Store) (t : Token) : Option MethodRecord :=
  s.records.methods.find? fun m => m.token == t

/-- The member of another module with a token. -/
def member? (s : Store) (t : Token) : Option MemberRecord :=
  s.records.members.find? fun m => m.token == t

def type? (s : Store) (t : Token) : Option TypeRecord :=
  s.records.types.find? fun r => r.token == t

/-- The field with a token, listed on a type or not. -/
def field? (s : Store) (t : Token) : Option FieldRecord :=
  s.records.fields.find? fun f => f.token == t

def body? (s : Store) (t : Token) : Option Body :=
  (s.method? t).bind MethodRecord.body?

def fieldsOf? (s : Store) (t : Token) : Option (List FieldRecord) :=
  (s.type? t).map TypeRecord.fields

/-- The base of the type with a token. Both must be known. -/
def baseOf? (s : Store) (t : Token) : Option TypeRecord :=
  ((s.type? t).bind TypeRecord.base?).bind s.type?

def methodCount (s : Store) : Nat :=
  s.records.methods.length

def typeCount (s : Store) : Nat :=
  s.records.types.length

theorem ofRecordSet_eq_error_iff {rs : RecordSet} {fault : RecordFault} :
    ofRecordSet rs = .error fault ↔ rs.fault? = some fault := by
  unfold ofRecordSet
  split <;> simp_all

theorem ofRecordSet_eq_ok_iff {rs : RecordSet} {s : Store} :
    ofRecordSet rs = .ok s ↔ s.records = rs := by
  obtain ⟨records, sound⟩ := s
  unfold ofRecordSet
  split
  · simp [eq_comm]
  · rename_i fault h
    simp only [reduceCtorEq, false_iff]
    rintro rfl
    simp [sound] at h

/-- A record is found under its own token only. -/
theorem token_of_method? {s : Store} {t : Token} {m : MethodRecord}
    (h : s.method? t = some m) : m.token = t := by
  simpa using List.find?_some h

theorem token_of_member? {s : Store} {t : Token} {m : MemberRecord}
    (h : s.member? t = some m) : m.token = t := by
  simpa using List.find?_some h

theorem token_of_type? {s : Store} {t : Token} {r : TypeRecord}
    (h : s.type? t = some r) : r.token = t := by
  simpa using List.find?_some h

theorem token_of_field? {s : Store} {t : Token} {f : FieldRecord}
    (h : s.field? t = some f) : f.token = t := by
  simpa using List.find?_some h

end Store

end HandlerRecognition
