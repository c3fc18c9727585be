import HandlerRecognition.Metadata.Store
import HandlerRecognition.Proofs.Keyed

/-!
# The order of an examination

The examination of a record set is a list of checks, one after the other
(`RecordSet.checks`). Each check is about one token, and only a check for a repeated
token depends on the checks before it. The fault of a record set is that of the
first check that fails (`RecordSet.fault?_eq`).

The list is made from the records of each kind in order. So it does not matter how
the records of different kinds were interleaved when they were added.
-/

namespace HandlerRecognition

/-- The kinds of records, each with its own table of tokens. -/
inductive RecordKind where
  | method
  | member
  | type
  /-- Fields that are listed on a type and fields that stand alone. -/
  | field
  deriving DecidableEq

/-- Whether a token is of the table of a kind of record. -/
def RecordKind.fits : RecordKind → Token → Bool
  | .method => Token.isMethod
  | .member => Token.isMember
  | .type => Token.isType
  | .field => Token.isField

/-- A check in the examination of a record set. -/
inductive Check where
  /-- The token of a record is of the right table. -/
  | table (kind : RecordKind) (token : Token)
  /-- The declaring type of a method is a type. -/
  | owner (method owner : Token)
  /-- The token of a record has not been seen in a record of the same kind. -/
  | unseen (kind : RecordKind) (token : Token)
  deriving DecidableEq

namespace Check

/-- What is wrong if a check fails. -/
def fault : Check → RecordFault
  | table _ t => .wrongTable t
  | owner m o => .ownerNotType m o
  | unseen _ t => .duplicate t

/-- A check fails after others. A token has been seen if one of these has looked
for it among the tokens of the same kind. -/
def Fails (before : List Check) : Check → Prop
  | table kind t => kind.fits t = false
  | owner _ o => o.isType = false
  | unseen kind t => unseen kind t ∈ before

section Fails

variable {before : List Check} {kind : RecordKind} {t m o : Token}

@[simp] theorem fails_table_iff :
    (table kind t).Fails before ↔ kind.fits t = false := Iff.rfl

@[simp] theorem fails_owner_iff :
    (owner m o).Fails before ↔ o.isType = false := Iff.rfl

@[simp] theorem fails_unseen_iff :
    (unseen kind t).Fails before ↔ unseen kind t ∈ before := Iff.rfl

end Fails

instance (before : List Check) : DecidablePred (Fails before)
  | table kind t => inferInstanceAs (Decidable (kind.fits t = false))
  | owner _ o => inferInstanceAs (Decidable (o.isType = false))
  | unseen kind t => inferInstanceAs (Decidable (unseen kind t ∈ before))

/-- The fault of the first check of a list that fails. -/
def FirstFault (checks : List Check) (fault : RecordFault) : Prop :=
  ∃ before c after, checks = before ++ c :: after ∧
    (∀ earlier d later, before = earlier ++ d :: later → ¬ d.Fails earlier) ∧
    c.Fails before ∧ c.fault = fault

/-- The fault of the first check that fails in a list that comes after other
checks. -/
def firstFault? (before : List Check) : List Check → Option RecordFault
  | [] => none
  | c :: cs =>
    if c.Fails before then some c.fault else firstFault? (before ++ [c]) cs

variable {before cs cs' : List Check} {c : Check} {fault : RecordFault}

@[simp] theorem firstFault?_nil : firstFault? before [] = none := rfl

@[simp] theorem firstFault?_cons :
    firstFault? before (c :: cs) =
      if c.Fails before then some c.fault
      else firstFault? (before ++ [c]) cs := rfl

theorem firstFault?_append :
    firstFault? before (cs ++ cs') =
      (firstFault? before cs).or (firstFault? (before ++ cs) cs') := by
  induction cs generalizing before with
  | nil => simp
  | cons c cs ih =>
      rw [List.cons_append, firstFault?_cons, firstFault?_cons, ih,
        List.append_assoc, List.singleton_append]
      by_cases h : c.Fails before <;> simp [h]

theorem firstFault?_eq_none_iff :
    firstFault? before cs = none ↔
      ∀ earlier c later, cs = earlier ++ c :: later →
        ¬ c.Fails (before ++ earlier) := by
  suffices h : firstFault? before cs = none ↔
      ¬ ∃ earlier c later, cs = earlier ++ c :: later ∧
        c.Fails (before ++ earlier) by
    simpa only [not_exists, not_and] using h
  induction cs generalizing before with
  | nil => simp
  | cons c cs ih =>
      have hrest := @ih (before ++ [c])
      simp only [List.append_assoc, List.singleton_append] at hrest
      rw [firstFault?_cons, exists_place_cons_iff
        (P := fun earlier (d : Check) => d.Fails (before ++ earlier)), not_or,
        ← hrest, List.append_nil]
      by_cases h : c.Fails before <;> simp [h]

theorem firstFault?_eq_some_iff :
    firstFault? before cs = some fault ↔
      ∃ earlier c later, cs = earlier ++ c :: later ∧
        firstFault? before earlier = none ∧ c.Fails (before ++ earlier) ∧
          c.fault = fault := by
  induction cs generalizing before with
  | nil => simp
  | cons c cs ih =>
      have hrest := @ih (before ++ [c])
      simp only [List.append_assoc, List.singleton_append] at hrest
      rw [firstFault?_cons, exists_place_cons_iff
        (P := fun earlier (d : Check) => firstFault? before earlier = none ∧
          d.Fails (before ++ earlier) ∧ d.fault = fault)]
      by_cases h : c.Fails before <;> simp [h, hrest]

theorem firstFault_iff :
    FirstFault cs fault ↔ firstFault? [] cs = some fault := by
  simp only [firstFault?_eq_some_iff, firstFault?_eq_none_iff, List.nil_append,
    FirstFault]

end Check

namespace RecordSet

open Check

/-- The checks of a record that is nothing but a token. -/
def tokenChecks (kind : RecordKind) (t : Token) : List Check :=
  [.table kind t, .unseen kind t]

/-- The checks of a method. Its declaring type is looked at before its token is
looked for. -/
def methodChecks (m : MethodRecord) : List Check :=
  .table .method m.token ::
    (m.declaringType?.toList.map (Check.owner m.token) ++
      [.unseen .method m.token])

/-- The checks of a type. Its fields are examined before its own token is looked
for. -/
def typeChecks (t : TypeRecord) : List Check :=
  .table .type t.token ::
    ((fieldTokens t).flatMap (tokenChecks .field) ++ [.unseen .type t.token])

/-- All checks of a record set, in order. -/
def checks (rs : RecordSet) : List Check :=
  rs.methods.flatMap methodChecks ++
    ((rs.members.map MemberRecord.token).flatMap (tokenChecks .member) ++
      (rs.types.flatMap typeChecks ++
        (rs.looseFields.map FieldRecord.token).flatMap (tokenChecks .field)))

section Seen

variable {kind : RecordKind} {t : Token}

@[simp] theorem unseen_mem_tokenChecks {kind' : RecordKind} {t' : Token} :
    .unseen kind t ∈ tokenChecks kind' t' ↔ kind = kind' ∧ t = t' := by
  simp [tokenChecks]

@[simp] theorem unseen_mem_methodChecks {m : MethodRecord} :
    .unseen kind t ∈ methodChecks m ↔ kind = .method ∧ t = m.token := by
  simp [methodChecks]

@[simp] theorem unseen_mem_typeChecks {r : TypeRecord} :
    .unseen kind t ∈ typeChecks r ↔
      (kind = .field ∧ t ∈ fieldTokens r) ∨ (kind = .type ∧ t = r.token) := by
  simp [typeChecks, and_comm]

/-- The tokens in hand are those that the checks of a kind have looked for. -/
def Seen (kind : RecordKind) (seen : List Token) (before : List Check) : Prop :=
  ∀ t, t ∈ seen ↔ .unseen kind t ∈ before

variable {tokens seen : List Token} {before cs : List Check}

theorem Seen.append (hbefore : Seen kind seen before)
    (hcs : Seen kind tokens cs) : Seen kind (tokens ++ seen) (before ++ cs) := by
  intro t
  rw [List.mem_append, List.mem_append, hbefore t, hcs t, or_comm]

/-- Checks that look for no token of a kind leave those in hand. -/
theorem Seen.skip (hbefore : Seen kind seen before)
    (hcs : ∀ t, .unseen kind t ∉ cs) : Seen kind seen (before ++ cs) := by
  have hnone : Seen kind [] cs := fun t => by simp [hcs t]
  exact hbefore.append hnone

end Seen

section Examination

variable {seen seenFields seenTypes : List Token} {before : List Check}

theorem tokenFault?_eq (kind : RecordKind) (h : Seen kind seen before)
    (t : Token) :
    tokenFault? kind.fits seen t = firstFault? before (tokenChecks kind t) := by
  have hseen := h t
  cases hfits : kind.fits t <;>
    simp [tokenFault?, tokenChecks, fault, hfits, hseen]

theorem tokensFault?_eq (kind : RecordKind) (h : Seen kind seen before)
    (ts : List Token) :
    tokensFault? kind.fits seen ts =
      firstFault? before (ts.flatMap (tokenChecks kind)) := by
  induction ts generalizing seen before with
  | nil => rfl
  | cons t ts ih =>
      have hnext : Seen kind ([t] ++ seen) (before ++ tokenChecks kind t) :=
        h.append fun t' => by simp
      rw [tokensFault?, List.flatMap_cons, firstFault?_append,
        ← tokenFault?_eq kind h, ← ih hnext]
      cases tokenFault? kind.fits seen t <;> rfl

theorem methodFault?_eq (h : Seen .method seen before) (m : MethodRecord) :
    methodFault? seen m = firstFault? before (methodChecks m) := by
  have hseen := h m.token
  rw [methodFault?, methodChecks]
  cases hmethod : m.token.isMethod with
  | false => simp [tokenFault?, fault, RecordKind.fits, hmethod]
  | true =>
      cases m.declaringType? with
      | none => simp [tokenFault?, fault, RecordKind.fits, hmethod, hseen]
      | some owner =>
          cases htype : owner.isType with
          | false => simp [fault, RecordKind.fits, hmethod, htype]
          | true =>
              simp [tokenFault?, fault, RecordKind.fits, hmethod, htype, hseen]

theorem methodsFault?_eq (h : Seen .method seen before)
    (ms : List MethodRecord) :
    methodsFault? seen ms = firstFault? before (ms.flatMap methodChecks) := by
  induction ms generalizing seen before with
  | nil => rfl
  | cons m ms ih =>
      have hnext : Seen .method ([m.token] ++ seen) (before ++ methodChecks m) :=
        h.append fun t => by simp
      rw [methodsFault?, List.flatMap_cons, firstFault?_append,
        ← methodFault?_eq h, ← ih hnext]
      cases methodFault? seen m <;> rfl

theorem typeFault?_eq (hfields : Seen .field seenFields before)
    (htypes : Seen .type seenTypes before) (t : TypeRecord) :
    typeFault? seenFields seenTypes t = firstFault? before (typeChecks t) := by
  have hfields' : Seen .field seenFields (before ++ [.table .type t.token]) :=
    hfields.skip fun _ => by simp
  have hlisted : tokensFault? Token.isField seenFields (fieldTokens t) = _ :=
    tokensFault?_eq .field hfields' (fieldTokens t)
  have hseen := htypes t.token
  rw [typeFault?, typeChecks, firstFault?_cons, firstFault?_append, ← hlisted]
  cases htype : t.token.isType with
  | false => simp [fault, RecordKind.fits, htype]
  | true =>
      cases tokensFault? Token.isField seenFields (fieldTokens t) with
      | some found => simp [RecordKind.fits, htype]
      | none => simp [tokenFault?, fault, RecordKind.fits, htype, hseen]

theorem typesFault?_eq (hfields : Seen .field seenFields before)
    (htypes : Seen .type seenTypes before) (ts : List TypeRecord) :
    typesFault? seenFields seenTypes ts =
      firstFault? before (ts.flatMap typeChecks) := by
  induction ts generalizing seenFields seenTypes before with
  | nil => rfl
  | cons t ts ih =>
      have hfields' : Seen .field (fieldTokens t ++ seenFields)
          (before ++ typeChecks t) :=
        hfields.append fun t' => by simp
      have htypes' : Seen .type ([t.token] ++ seenTypes)
          (before ++ typeChecks t) :=
        htypes.append fun t' => by simp
      rw [typesFault?, List.flatMap_cons, firstFault?_append,
        ← typeFault?_eq hfields htypes, ← ih hfields' htypes']
      cases typeFault? seenFields seenTypes t <;> rfl

end Examination

/-- The examination goes through the checks and stops at the first that fails. -/
theorem fault?_eq (rs : RecordSet) : rs.fault? = firstFault? [] rs.checks := by
  have hor (a b : Option RecordFault) : (a <|> b) = a.or b := by
    cases a <;> rfl
  simp only [fault?, checks, hor, firstFault?_append, List.nil_append]
  -- The tokens in hand at each stage are those that the stages before looked for.
  refine congrArg₂ Option.or (methodsFault?_eq ?methods _)
    (congrArg₂ Option.or (tokensFault?_eq .member ?members _)
      (congrArg₂ Option.or (typesFault?_eq ?listed ?types _)
        (tokensFault?_eq .field ?loose _)))
  all_goals
    intro t
    simp

end RecordSet

namespace Record

def kind : Record → RecordKind
  | method _ => .method
  | member _ => .member
  | type _ => .type
  | field _ => .field

/-- The records of one kind, in order. -/
def ofKind (kind : RecordKind) (records : List Record) : List Record :=
  records.filter fun record => record.kind = kind

theorem filterMap_ofKind {α : Type} {pick : Record → Option α}
    {kind : RecordKind} (h : ∀ record, record.kind ≠ kind → pick record = none)
    (records : List Record) :
    (ofKind kind records).filterMap pick = records.filterMap pick := by
  rw [ofKind, List.filterMap_filter]
  refine List.filterMap_congr fun record _ => ?_
  by_cases hkind : record.kind = kind <;> simp [hkind, h]

end Record

/-- A record set has the records of each kind and nothing of how they were
interleaved. -/
theorem RecordSet.ofList_congr {records records' : List Record}
    (h : ∀ kind, Record.ofKind kind records = Record.ofKind kind records') :
    ofList records = ofList records' := by
  have hpick {α : Type} {pick : Record → Option α} (kind : RecordKind)
      (hpick : ∀ record, record.kind ≠ kind → pick record = none) :
      records.filterMap pick = records'.filterMap pick := by
    rw [← Record.filterMap_ofKind hpick, h, Record.filterMap_ofKind hpick]
  rw [ofList, ofList, hpick .method, hpick .member, hpick .type, hpick .field]
  all_goals
    rintro (_ | _ | _ | _) hkind
    all_goals first | rfl | exact absurd rfl hkind

namespace Store

/-- Which fault a record set is rejected for. It is the fault of the first check
that fails, with the checks in the order of `RecordSet.checks`. How the records of
different kinds were interleaved does not matter to the fault, and to the store if
there is no fault. -/
theorem build_first_fault (records : List Record) :
    (∀ fault, build records = .error fault ↔
      Check.FirstFault (RecordSet.ofList records).checks fault) ∧
    ∀ records' : List Record,
      (∀ kind, Record.ofKind kind records = Record.ofKind kind records') →
        build records = build records' := by
  constructor
  · intro fault
    rw [build, ofRecordSet_eq_error_iff, RecordSet.fault?_eq,
      Check.firstFault_iff]
  · intro records' h
    rw [build, build, RecordSet.ofList_congr h]

/-- A method that is declared by a method comes before a token that two fields
share, whichever was added first. -/
theorem build_first_fault_of_two :
    let owner : Token := .ofParts Token.methodTable 2
    let m : MethodRecord :=
      ⟨.ofParts Token.methodTable 1, "", some owner, ⟨none, []⟩, none⟩
    let f : FieldRecord := ⟨.ofParts Token.fieldTable 1, "", "", none⟩
    let t : TypeRecord :=
      ⟨.ofParts Token.typeDefTable 1, "", "", none, [f]⟩
    let records : List Record := [.field f, .type t, .method m]
    Check.FirstFault (RecordSet.ofList records).checks
        (.ownerNotType m.token owner) ∧
      build records = build [.method m, .type t, .field f] := by
  intro owner m f t records
  obtain ⟨hfault, hinterleaved⟩ := build_first_fault records
  refine ⟨(hfault _).mp (ofRecordSet_eq_error_iff.mpr (by decide)),
    hinterleaved _ fun kind => ?_⟩
  cases kind <;> rfl

end Store

end HandlerRecognition
