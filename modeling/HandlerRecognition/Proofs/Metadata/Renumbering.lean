import HandlerRecognition.Metadata.Store
import HandlerRecognition.Proofs.Instruction.Renumbering
import Mathlib.Data.List.Basic

/-!
# Renumbering records

A record is renumbered in its own token, in the tokens of what declares it, of
its base and of its fields, and in its body. Renumbering keeps the tables of
tokens and keeps different tokens apart, so a record set has a fault exactly if
the renumbered set has the renumbered fault, and a store can be renumbered.
What a store knows under a token, the renumbered store knows renumbered under
the renumbered token.
-/

namespace HandlerRecognition

variable (p : Renumbering)

namespace MethodRecord

def renumber (m : MethodRecord) : MethodRecord :=
  { m with
    token := p m.token
    declaringType? := m.declaringType?.map p
    body? := m.body?.map (Body.renumber p) }

@[simp] theorem token_renumber (m : MethodRecord) :
    (m.renumber p).token = p m.token := rfl

@[simp] theorem name_renumber (m : MethodRecord) :
    (m.renumber p).name = m.name := rfl

@[simp] theorem signature_renumber (m : MethodRecord) :
    (m.renumber p).signature = m.signature := rfl

@[simp] theorem isConstructor_renumber (m : MethodRecord) :
    (m.renumber p).isConstructor = m.isConstructor := rfl

@[simp] theorem declaringType?_renumber (m : MethodRecord) :
    (m.renumber p).declaringType? = m.declaringType?.map p := rfl

@[simp] theorem body?_renumber (m : MethodRecord) :
    (m.renumber p).body? = m.body?.map (Body.renumber p) := rfl

end MethodRecord

namespace MemberRecord

def renumber (m : MemberRecord) : MemberRecord :=
  { m with token := p m.token }

@[simp] theorem token_renumber (m : MemberRecord) :
    (m.renumber p).token = p m.token := rfl

@[simp] theorem name_renumber (m : MemberRecord) :
    (m.renumber p).name = m.name := rfl

@[simp] theorem signature_renumber (m : MemberRecord) :
    (m.renumber p).signature = m.signature := rfl

@[simp] theorem fullName_renumber (m : MemberRecord) :
    (m.renumber p).fullName = m.fullName := rfl

end MemberRecord

namespace FieldRecord

def renumber (f : FieldRecord) : FieldRecord :=
  { f with token := p f.token, declaringType? := f.declaringType?.map p }

@[simp] theorem token_renumber (f : FieldRecord) :
    (f.renumber p).token = p f.token := rfl

@[simp] theorem isOfType_renumber (f : FieldRecord) (typeName : String) :
    (f.renumber p).isOfType typeName = f.isOfType typeName := rfl

end FieldRecord

namespace TypeRecord

/-- The fields are renumbered as they were listed. What declares them is the
renumbered type. -/
def renumber (t : TypeRecord) : TypeRecord :=
  { t with
    token := p t.token
    base? := t.base?.map p
    listed := t.listed.map (FieldRecord.renumber p) }

@[simp] theorem token_renumber (t : TypeRecord) :
    (t.renumber p).token = p t.token := rfl

@[simp] theorem base?_renumber (t : TypeRecord) :
    (t.renumber p).base? = t.base?.map p := rfl

@[simp] theorem fields_renumber (t : TypeRecord) :
    (t.renumber p).fields = t.fields.map (FieldRecord.renumber p) := by
  simp [renumber, fields, FieldRecord.renumber, FieldRecord.declaredBy]

@[simp] theorem countFields_renumber (t : TypeRecord) (typeName : String) :
    (t.renumber p).countFields typeName = t.countFields typeName := by
  simp [countFields, List.countP_map, Function.comp_def]

end TypeRecord

namespace Record

def renumber : Record → Record
  | .method m => .method (m.renumber p)
  | .member m => .member (m.renumber p)
  | .type t => .type (t.renumber p)
  | .field f => .field (f.renumber p)

end Record

namespace RecordFault

def renumber : RecordFault → RecordFault
  | .wrongTable t => .wrongTable (p t)
  | .ownerNotType method owner => .ownerNotType (p method) (p owner)
  | .duplicate t => .duplicate (p t)

end RecordFault

namespace RecordSet

def renumber (rs : RecordSet) : RecordSet where
  methods := rs.methods.map (MethodRecord.renumber p)
  members := rs.members.map (MemberRecord.renumber p)
  types := rs.types.map (TypeRecord.renumber p)
  looseFields := rs.looseFields.map (FieldRecord.renumber p)

theorem ofList_renumber (records : List Record) :
    ofList (records.map (Record.renumber p)) = (ofList records).renumber p := by
  simp only [ofList, renumber, List.filterMap_map, List.map_filterMap,
    RecordSet.mk.injEq]
  refine ⟨?_, ?_, ?_, ?_⟩ <;>
    exact List.filterMap_congr fun r _ => by cases r <;> rfl

theorem fields_renumber (rs : RecordSet) :
    (rs.renumber p).fields = rs.fields.map (FieldRecord.renumber p) := by
  simp [fields, renumber, List.flatMap_map, List.map_flatMap]

theorem fieldTokens_renumber (t : TypeRecord) :
    fieldTokens (t.renumber p) = (fieldTokens t).map p := by
  simp [fieldTokens]

theorem contains_map_apply (seen : List Token) (t : Token) :
    (seen.map p).contains (p t) = seen.contains t := by
  induction seen with
  | nil => rfl
  | cons u us ih =>
      simp only [List.map_cons, List.contains_cons, p.beq_apply, ih]

section Tokens

variable {fits : Token → Bool}

theorem tokenFault?_renumber (hfits : ∀ t, fits (p t) = fits t)
    (seen : List Token) (t : Token) :
    tokenFault? fits (seen.map p) (p t) =
      (tokenFault? fits seen t).map (RecordFault.renumber p) := by
  unfold tokenFault?
  rw [hfits, contains_map_apply]
  split_ifs <;> rfl

theorem tokensFault?_renumber (hfits : ∀ t, fits (p t) = fits t)
    (seen tokens : List Token) :
    tokensFault? fits (seen.map p) (tokens.map p) =
      (tokensFault? fits seen tokens).map (RecordFault.renumber p) := by
  induction tokens generalizing seen with
  | nil => rfl
  | cons t ts ih =>
      simp only [List.map_cons, tokensFault?, tokenFault?_renumber p hfits]
      cases tokenFault? fits seen t with
      | none => exact ih (t :: seen)
      | some fault => rfl

end Tokens

theorem methodFault?_renumber (seen : List Token) (m : MethodRecord) :
    methodFault? (seen.map p) (m.renumber p) =
      (methodFault? seen m).map (RecordFault.renumber p) := by
  have htoken := tokenFault?_renumber p p.isMethod_apply seen m.token
  simp only [methodFault?, MethodRecord.token_renumber, p.isMethod_apply,
    MethodRecord.declaringType?_renumber]
  cases m.token.isMethod with
  | false => exact htoken
  | true =>
      cases m.declaringType? with
      | none => exact htoken
      | some owner =>
          simp only [Option.map_some, p.isType_apply]
          split
          · exact htoken
          · rfl

theorem methodsFault?_renumber (seen : List Token) (ms : List MethodRecord) :
    methodsFault? (seen.map p) (ms.map (MethodRecord.renumber p)) =
      (methodsFault? seen ms).map (RecordFault.renumber p) := by
  induction ms generalizing seen with
  | nil => rfl
  | cons m ms ih =>
      simp only [List.map_cons, methodsFault?, methodFault?_renumber]
      cases methodFault? seen m with
      | none => exact ih (m.token :: seen)
      | some fault => rfl

theorem typeFault?_renumber (seenFields seenTypes : List Token)
    (t : TypeRecord) :
    typeFault? (seenFields.map p) (seenTypes.map p) (t.renumber p) =
      (typeFault? seenFields seenTypes t).map (RecordFault.renumber p) := by
  simp only [typeFault?, TypeRecord.token_renumber, p.isType_apply,
    fieldTokens_renumber, tokensFault?_renumber p p.isField_apply,
    tokenFault?_renumber p p.isType_apply]
  split
  · cases tokensFault? Token.isField seenFields (fieldTokens t) <;> rfl
  · rfl

theorem typesFault?_renumber (seenFields seenTypes : List Token)
    (ts : List TypeRecord) :
    typesFault? (seenFields.map p) (seenTypes.map p)
        (ts.map (TypeRecord.renumber p)) =
      (typesFault? seenFields seenTypes ts).map (RecordFault.renumber p) := by
  induction ts generalizing seenFields seenTypes with
  | nil => rfl
  | cons t ts ih =>
      simp only [List.map_cons, typesFault?, typeFault?_renumber,
        fieldTokens_renumber, ← List.map_append]
      cases typeFault? seenFields seenTypes t with
      | none => exact ih _ (t.token :: seenTypes)
      | some fault => rfl

theorem fault?_renumber (rs : RecordSet) :
    (rs.renumber p).fault? = rs.fault?.map (RecordFault.renumber p) := by
  have hmethods := methodsFault?_renumber p [] rs.methods
  have hmembers := tokensFault?_renumber p p.isMember_apply []
    (rs.members.map MemberRecord.token)
  have htypes := typesFault?_renumber p [] [] rs.types
  have hfields := tokensFault?_renumber p p.isField_apply
    (rs.types.flatMap fieldTokens) (rs.looseFields.map FieldRecord.token)
  simp only [List.map_nil, List.map_map, List.map_flatMap, Function.comp_def]
    at hmethods hmembers htypes hfields
  simp only [fault?, renumber, List.map_map, List.flatMap_map,
    Function.comp_def, MemberRecord.token_renumber, FieldRecord.token_renumber,
    fieldTokens_renumber, hmethods, hmembers, htypes, hfields,
    Option.orElse_eq_orElse, Option.orElse_eq_or, Option.map_or]

end RecordSet

namespace Store

def renumber (s : Store) : Store where
  records := s.records.renumber p
  sound := by rw [RecordSet.fault?_renumber, s.sound, Option.map_none]

theorem build_renumber_of_ok {records : List Record} {s : Store}
    (h : build records = .ok s) :
    build (records.map (Record.renumber p)) = .ok (s.renumber p) := by
  rw [build, ofRecordSet_eq_ok_iff] at h ⊢
  rw [RecordSet.ofList_renumber, ← h]
  rfl

theorem build_renumber_of_error {records : List Record} {fault : RecordFault}
    (h : build records = .error fault) :
    build (records.map (Record.renumber p)) = .error (fault.renumber p) := by
  rw [build, ofRecordSet_eq_error_iff] at h ⊢
  rw [RecordSet.ofList_renumber, RecordSet.fault?_renumber, h, Option.map_some]

variable (s : Store) (t : Token)

@[simp] theorem method?_renumber :
    (s.renumber p).method? (p t) =
      (s.method? t).map (MethodRecord.renumber p) := by
  simp only [method?, renumber, RecordSet.renumber, List.find?_map,
    Function.comp_def, MethodRecord.token_renumber, p.beq_apply]

@[simp] theorem member?_renumber :
    (s.renumber p).member? (p t) =
      (s.member? t).map (MemberRecord.renumber p) := by
  simp only [member?, renumber, RecordSet.renumber, List.find?_map,
    Function.comp_def, MemberRecord.token_renumber, p.beq_apply]

@[simp] theorem type?_renumber :
    (s.renumber p).type? (p t) = (s.type? t).map (TypeRecord.renumber p) := by
  simp only [type?, renumber, RecordSet.renumber, List.find?_map,
    Function.comp_def, TypeRecord.token_renumber, p.beq_apply]

@[simp] theorem field?_renumber :
    (s.renumber p).field? (p t) =
      (s.field? t).map (FieldRecord.renumber p) := by
  simp only [field?, renumber, RecordSet.fields_renumber, List.find?_map,
    Function.comp_def, FieldRecord.token_renumber, p.beq_apply]

@[simp] theorem body?_renumber :
    (s.renumber p).body? (p t) = (s.body? t).map (Body.renumber p) := by
  simp only [body?, method?_renumber, Option.bind_map, Option.map_bind]
  rfl

@[simp] theorem baseOf?_renumber :
    (s.renumber p).baseOf? (p t) =
      (s.baseOf? t).map (TypeRecord.renumber p) := by
  simp only [baseOf?, type?_renumber, Option.bind_map, Option.map_bind,
    Option.bind_assoc, Function.comp_def, TypeRecord.base?_renumber]

end Store

end HandlerRecognition
