import HandlerRecognition.Metadata.Store
import HandlerRecognition.Proofs.Keyed

/-!
# Which record sets can be built

A record set is `Consistent` if every token is of the table of its record, every
declaring type is a type, and no token occurs twice among the methods, among the
members, among the types or among the fields. The examination for faults passes
exactly the consistent sets, so those are the ones that have a store.

A store then answers a token with the record that has it: each lookup finds a
record exactly if the record was added under that token, and the fields that are
listed on types are found like those that stand alone.
-/

namespace HandlerRecognition

namespace Record

def isMethod : Record → Bool
  | method _ => true
  | _ => false

def isType : Record → Bool
  | type _ => true
  | _ => false

end Record

namespace RecordSet

variable {rs : RecordSet} {records : List Record}

section OfList

/-- The records of one kind are those under its constructor. -/
theorem mem_filterMap_iff {α : Type} {pick : Record → Option α}
    {wrap : α → Record} (h : ∀ record a, pick record = some a ↔ record = wrap a)
    {a : α} : a ∈ records.filterMap pick ↔ wrap a ∈ records := by
  rw [List.mem_filterMap]
  constructor
  · rintro ⟨record, hmem, hpick⟩
    rwa [(h record a).mp hpick] at hmem
  · intro hmem
    exact ⟨wrap a, hmem, (h _ a).mpr rfl⟩

@[simp] theorem mem_methods_ofList {m : MethodRecord} :
    m ∈ (ofList records).methods ↔ .method m ∈ records :=
  mem_filterMap_iff fun record _ => by cases record <;> simp

@[simp] theorem mem_members_ofList {m : MemberRecord} :
    m ∈ (ofList records).members ↔ .member m ∈ records :=
  mem_filterMap_iff fun record _ => by cases record <;> simp

@[simp] theorem mem_types_ofList {t : TypeRecord} :
    t ∈ (ofList records).types ↔ .type t ∈ records :=
  mem_filterMap_iff fun record _ => by cases record <;> simp

@[simp] theorem mem_looseFields_ofList {f : FieldRecord} :
    f ∈ (ofList records).looseFields ↔ .field f ∈ records :=
  mem_filterMap_iff fun record _ => by cases record <;> simp

theorem length_methods_ofList :
    (ofList records).methods.length = records.countP Record.isMethod := by
  rw [ofList, List.length_filterMap_eq_countP]
  refine List.countP_congr fun record _ => ?_
  cases record <;> simp [Record.isMethod]

theorem length_types_ofList :
    (ofList records).types.length = records.countP Record.isType := by
  rw [ofList, List.length_filterMap_eq_countP]
  refine List.countP_congr fun record _ => ?_
  cases record <;> simp [Record.isType]

end OfList

theorem mem_fields {f : FieldRecord} :
    f ∈ rs.fields ↔ (∃ t ∈ rs.types, f ∈ t.fields) ∨ f ∈ rs.looseFields := by
  simp [fields]

/-- What a record set has to satisfy to be built. The fields of both origins
count together. -/
structure Consistent (rs : RecordSet) : Prop where
  isMethod : ∀ m ∈ rs.methods, m.token.isMethod
  isMember : ∀ m ∈ rs.members, m.token.isMember
  isType : ∀ t ∈ rs.types, t.token.isType
  isField : ∀ f ∈ rs.fields, f.token.isField
  ownerIsType : ∀ m ∈ rs.methods, ∀ owner ∈ m.declaringType?, owner.isType
  nodupMethods : (rs.methods.map MethodRecord.token).Nodup
  nodupMembers : (rs.members.map MemberRecord.token).Nodup
  nodupTypes : (rs.types.map TypeRecord.token).Nodup
  nodupFields : (rs.fields.map FieldRecord.token).Nodup

section Examination

variable {fits : Token → Bool} {seen seenFields seenTypes : List Token}

theorem tokenFault?_eq_none_iff {t : Token} :
    tokenFault? fits seen t = none ↔ fits t ∧ t ∉ seen := by
  cases h : fits t with
  | false => simp [tokenFault?, h]
  | true => simp [tokenFault?, h]

theorem tokensFault?_eq_none_iff {ts : List Token} :
    tokensFault? fits seen ts = none ↔
      (∀ t ∈ ts, fits t) ∧ Fresh id seen ts := by
  induction ts generalizing seen with
  | nil => simp [tokensFault?]
  | cons t ts ih =>
      rw [tokensFault?, List.forall_mem_cons, fresh_cons, and_and_and_comm,
        id, ← tokenFault?_eq_none_iff]
      cases htoken : tokenFault? fits seen t with
      | some fault => simp
      | none => simp [ih]

theorem methodFault?_eq_none_iff {m : MethodRecord} :
    methodFault? seen m = none ↔
      (m.token.isMethod ∧ ∀ owner ∈ m.declaringType?, owner.isType) ∧
        m.token ∉ seen := by
  cases hmethod : m.token.isMethod with
  | false => simp [methodFault?, hmethod, tokenFault?_eq_none_iff]
  | true =>
      cases howner : m.declaringType? with
      | none => simp [methodFault?, hmethod, howner, tokenFault?_eq_none_iff]
      | some owner =>
          cases hisType : owner.isType with
          | false => simp [methodFault?, hmethod, howner, hisType]
          | true =>
              simp [methodFault?, hmethod, howner, hisType,
                tokenFault?_eq_none_iff]

theorem methodsFault?_eq_none_iff {ms : List MethodRecord} :
    methodsFault? seen ms = none ↔
      (∀ m ∈ ms, m.token.isMethod ∧ ∀ owner ∈ m.declaringType?, owner.isType) ∧
        Fresh MethodRecord.token seen ms := by
  induction ms generalizing seen with
  | nil => simp [methodsFault?]
  | cons m ms ih =>
      rw [methodsFault?, List.forall_mem_cons, fresh_cons, and_and_and_comm,
        ← methodFault?_eq_none_iff]
      cases hmethod : methodFault? seen m with
      | some fault => simp
      | none => simp [ih]

theorem typeFault?_eq_none_iff {t : TypeRecord} :
    typeFault? seenFields seenTypes t = none ↔
      (t.token.isType ∧ ∀ f ∈ fieldTokens t, f.isField) ∧
        Fresh id seenFields (fieldTokens t) ∧ t.token ∉ seenTypes := by
  have hfields : tokensFault? Token.isField seenFields (fieldTokens t) = none ↔
      (∀ f ∈ fieldTokens t, f.isField) ∧ Fresh id seenFields (fieldTokens t) :=
    tokensFault?_eq_none_iff
  rw [and_assoc, ← and_assoc (a := ∀ f ∈ fieldTokens t, f.isField), ← hfields]
  cases htype : t.token.isType with
  | false => simp [typeFault?, htype]
  | true =>
      cases hfault : tokensFault? Token.isField seenFields (fieldTokens t) with
      | some fault => simp [typeFault?, htype, hfault]
      | none => simp [typeFault?, htype, hfault, tokenFault?_eq_none_iff]

/-- The fields of all types are examined as one list. -/
theorem typesFault?_eq_none_iff {ts : List TypeRecord} :
    typesFault? seenFields seenTypes ts = none ↔
      (∀ t ∈ ts, t.token.isType ∧ ∀ f ∈ fieldTokens t, f.isField) ∧
        Fresh id seenFields (ts.flatMap fieldTokens) ∧
          Fresh TypeRecord.token seenTypes ts := by
  induction ts generalizing seenFields seenTypes with
  | nil => simp [typesFault?]
  | cons t ts ih =>
      rw [typesFault?, List.forall_mem_cons, List.flatMap_cons, fresh_append,
        fresh_cons, and_and_and_comm (c := t.token ∉ seenTypes),
        and_and_and_comm, ← typeFault?_eq_none_iff]
      cases htype : typeFault? seenFields seenTypes t with
      | some fault => simp
      | none => simp [ih]

end Examination

theorem map_token_fields (rs : RecordSet) :
    rs.fields.map FieldRecord.token =
      rs.types.flatMap fieldTokens ++ rs.looseFields.map FieldRecord.token := by
  simp only [fields, List.map_append, List.map_flatMap]
  rfl

/-- The loose fields are examined last, with the listed ones in hand. -/
theorem fieldsFault?_eq_none_iff :
    (typesFault? [] [] rs.types = none ∧
      tokensFault? Token.isField (rs.types.flatMap fieldTokens)
        (rs.looseFields.map FieldRecord.token) = none) ↔
      ((∀ t ∈ rs.types, t.token.isType) ∧
        (rs.types.map TypeRecord.token).Nodup) ∧
          (∀ f ∈ rs.fields, f.token.isField) ∧
            (rs.fields.map FieldRecord.token).Nodup := by
  have hfit : (∀ f ∈ rs.fields, f.token.isField = true) ↔
      (∀ t ∈ rs.types, ∀ f ∈ fieldTokens t, f.isField = true) ∧
        ∀ f ∈ rs.looseFields.map FieldRecord.token, f.isField = true := by
    rw [← List.forall_mem_map (P := fun t : Token => t.isField = true),
      map_token_fields, List.forall_mem_append, List.forall_mem_flatMap]
  have hnodup : (rs.fields.map FieldRecord.token).Nodup ↔
      Fresh id [] (rs.types.flatMap fieldTokens) ∧
        Fresh id (rs.types.flatMap fieldTokens)
          (rs.looseFields.map FieldRecord.token) := by
    rw [map_token_fields, ← List.map_id (_ ++ _), ← fresh_of_not_seen,
      fresh_append, List.append_nil]
  rw [typesFault?_eq_none_iff, tokensFault?_eq_none_iff, hfit, hnodup,
    fresh_of_not_seen (l := rs.types), forall₂_and]
  tauto

/-- The examination passes exactly the consistent record sets. -/
theorem fault?_eq_none_iff : rs.fault? = none ↔ rs.Consistent := by
  have hor (a b : Option RecordFault) :
      (a <|> b) = none ↔ a = none ∧ b = none := by
    cases a <;> simp
  rw [fault?, hor, hor, hor, fieldsFault?_eq_none_iff,
    methodsFault?_eq_none_iff, tokensFault?_eq_none_iff, fresh_of_not_seen,
    fresh_of_not_seen, List.map_id]
  constructor
  · rintro ⟨⟨hmethods, hnodupMethods⟩, ⟨hmembers, hnodupMembers⟩,
      ⟨htypes, hnodupTypes⟩, hfields, hnodupFields⟩
    exact ⟨fun m hm => (hmethods m hm).1, by simpa using hmembers, htypes,
      hfields, fun m hm => (hmethods m hm).2, hnodupMethods, hnodupMembers,
      hnodupTypes, hnodupFields⟩
  · intro h
    exact ⟨⟨fun m hm => ⟨h.isMethod m hm, h.ownerIsType m hm⟩, h.nodupMethods⟩,
      ⟨by simpa using h.isMember, h.nodupMembers⟩, ⟨h.isType, h.nodupTypes⟩,
      h.isField, h.nodupFields⟩

end RecordSet

namespace Store

variable {s : Store} {t : Token}

theorem consistent (s : Store) : s.records.Consistent :=
  RecordSet.fault?_eq_none_iff.mp s.sound

theorem method?_eq_some_iff {m : MethodRecord} :
    s.method? t = some m ↔ m ∈ s.records.methods ∧ m.token = t :=
  find?_key_eq_some_iff s.consistent.nodupMethods

theorem member?_eq_some_iff {m : MemberRecord} :
    s.member? t = some m ↔ m ∈ s.records.members ∧ m.token = t :=
  find?_key_eq_some_iff s.consistent.nodupMembers

theorem type?_eq_some_iff {r : TypeRecord} :
    s.type? t = some r ↔ r ∈ s.records.types ∧ r.token = t :=
  find?_key_eq_some_iff s.consistent.nodupTypes

theorem field?_eq_some_iff {f : FieldRecord} :
    s.field? t = some f ↔ f ∈ s.records.fields ∧ f.token = t :=
  find?_key_eq_some_iff s.consistent.nodupFields

/-- The fields of a type are found under their own tokens, as declared by the
type. -/
theorem field?_of_mem_fieldsOf? {fs : List FieldRecord} {f : FieldRecord}
    (hfields : s.fieldsOf? t = some fs) (hf : f ∈ fs) :
    s.field? f.token = some f ∧ f.declaringType? = some t := by
  obtain ⟨r, hr, rfl⟩ := Option.map_eq_some_iff.mp hfields
  obtain ⟨hmem, rfl⟩ := type?_eq_some_iff.mp hr
  refine ⟨field?_eq_some_iff.mpr ⟨?_, rfl⟩, ?_⟩
  · exact RecordSet.mem_fields.mpr (Or.inl ⟨r, hmem, hf⟩)
  · obtain ⟨g, -, rfl⟩ := List.mem_map.mp hf
    rfl

theorem baseOf?_eq_some_iff {b : TypeRecord} :
    s.baseOf? t = some b ↔
      ∃ d ∈ s.records.types, d.token = t ∧ b ∈ s.records.types ∧
        d.base? = some b.token := by
  simp only [baseOf?, Option.bind_eq_some_iff, type?_eq_some_iff]
  constructor
  · rintro ⟨_, ⟨d, ⟨hd, rfl⟩, hbase⟩, hb, rfl⟩
    exact ⟨d, hd, rfl, hb, hbase⟩
  · rintro ⟨d, hd, rfl, hb, hbase⟩
    exact ⟨b.token, ⟨d, ⟨hd, rfl⟩, hbase⟩, hb, rfl⟩

/-- What the lookups of a store have to do with the records that were added. -/
structure Indexes (s : Store) (records : List Record) : Prop where
  method? (t : Token) (m : MethodRecord) :
    s.method? t = some m ↔ .method m ∈ records ∧ m.token = t
  member? (t : Token) (m : MemberRecord) :
    s.member? t = some m ↔ .member m ∈ records ∧ m.token = t
  type? (t : Token) (r : TypeRecord) :
    s.type? t = some r ↔ .type r ∈ records ∧ r.token = t
  /-- Listed fields and fields that stand alone are found alike. -/
  field? (t : Token) (f : FieldRecord) :
    s.field? t = some f ↔
      ((∃ r, .type r ∈ records ∧ f ∈ r.fields) ∨ .field f ∈ records) ∧
        f.token = t
  fieldsOf? (t : Token) (fs : List FieldRecord) :
    s.fieldsOf? t = some fs ↔
      ∃ r, .type r ∈ records ∧ r.token = t ∧ r.fields = fs
  declared (t : Token) (fs : List FieldRecord) : s.fieldsOf? t = some fs →
    ∀ f ∈ fs, s.field? f.token = some f ∧ f.declaringType? = some t
  /-- A type has a base only if both of them were added. -/
  baseOf? (t : Token) (b : TypeRecord) :
    s.baseOf? t = some b ↔
      ∃ d, .type d ∈ records ∧ d.token = t ∧ .type b ∈ records ∧
        d.base? = some b.token
  methodCount : s.methodCount = records.countP Record.isMethod
  typeCount : s.typeCount = records.countP Record.isType

theorem indexes_of_build {records : List Record} (h : build records = .ok s) :
    s.Indexes records := by
  have hrecords : s.records = .ofList records := ofRecordSet_eq_ok_iff.mp h
  exact {
    method? := fun t m => by
      rw [method?_eq_some_iff, hrecords, RecordSet.mem_methods_ofList]
    member? := fun t m => by
      rw [member?_eq_some_iff, hrecords, RecordSet.mem_members_ofList]
    type? := fun t r => by
      rw [type?_eq_some_iff, hrecords, RecordSet.mem_types_ofList]
    field? := fun t f => by
      simp [field?_eq_some_iff, RecordSet.mem_fields, hrecords]
    fieldsOf? := fun t fs => by
      simp [Store.fieldsOf?, type?_eq_some_iff, hrecords, and_assoc]
    declared := fun t fs hfs f hf => field?_of_mem_fieldsOf? hfs hf
    baseOf? := fun t b => by
      simp [baseOf?_eq_some_iff, hrecords]
    methodCount := by
      rw [methodCount, hrecords, RecordSet.length_methods_ofList]
    typeCount := by
      rw [typeCount, hrecords, RecordSet.length_types_ofList] }

/-- Records build a store exactly if they are consistent, and the store finds
each of them under its own token and nothing else. -/
theorem build_consistent (records : List Record) :
    ((∃ s, build records = .ok s) ↔ (RecordSet.ofList records).Consistent) ∧
      ∀ s, build records = .ok s → s.Indexes records := by
  refine ⟨?_, fun s => indexes_of_build⟩
  rw [← RecordSet.fault?_eq_none_iff]
  constructor
  · rintro ⟨s, hs⟩
    rw [← ofRecordSet_eq_ok_iff.mp hs]
    exact s.sound
  · intro hsound
    exact ⟨⟨_, hsound⟩, ofRecordSet_eq_ok_iff.mpr rfl⟩

/-- A type that has a field and a base. A loose field under the token of the
listed one does not go with it. -/
theorem build_consistent_listed_field :
    let base : TypeRecord :=
      ⟨.ofParts Token.typeRefTable 1, "System", "Object", none, []⟩
    let listed : FieldRecord :=
      ⟨.ofParts Token.fieldTable 1, "value", "System.Object", none⟩
    let wrapper : TypeRecord :=
      ⟨.ofParts Token.typeDefTable 1, "", "Wrapper", some base.token, [listed]⟩
    let records : List Record := [.type wrapper, .type base]
    (∃ s, build records = .ok s ∧
        s.baseOf? wrapper.token = some base ∧
        s.field? listed.token = some (listed.declaredBy wrapper.token) ∧
        s.typeCount = 2) ∧
      ¬ ∃ s, build (.field listed :: records) = .ok s := by
  intro base listed wrapper records
  have hconsistent : (RecordSet.ofList records).Consistent :=
    RecordSet.fault?_eq_none_iff.mp (by decide)
  obtain ⟨s, hs⟩ := (build_consistent records).1.mpr hconsistent
  have hindexes := (build_consistent records).2 s hs
  refine ⟨⟨s, hs, ?_, ?_, hindexes.typeCount⟩, fun hbuilt => ?_⟩
  · exact (hindexes.baseOf? _ _).mpr
      ⟨wrapper, by simp [records], rfl, by simp [records], rfl⟩
  · have hfield : listed.declaredBy wrapper.token ∈ wrapper.fields := by
      simp [wrapper, TypeRecord.fields]
    exact (hindexes.field? _ _).mpr
      ⟨Or.inl ⟨wrapper, by simp [records], hfield⟩, rfl⟩
  · have hclash := (build_consistent (.field listed :: records)).1.mp hbuilt
    exact absurd hclash.nodupFields (by decide)

end Store

end HandlerRecognition
