import HandlerRecognition.Metadata.Index
import HandlerRecognition.Proofs.Metadata.Examination

/-!
# What the maps of a store hold

Filling the maps of a store goes through the checks of its record set.
`Check.Yields` says so of one step, with what holds of its result, and it is kept
when steps follow each other (`Check.Yields.bind`) and when one is repeated over a
list (`Check.Yields.foldlM`). What is kept of a map is `TokenMap.Covers`: it finds
what a search in the records so far finds, and their tokens are those that the
checks so far have looked for.

So the maps are filled exactly if the record set has no fault, and their lookups are
then those of the store (`IndexedStore.build_agrees`).
-/

namespace HandlerRecognition

namespace Check

variable {α β : Type} {before cs cs' : List Check} {good : α → Prop}
  {good' : β → Prop}

/-- The fault of the first check that fails, or a result of which something holds if
no check does. -/
def Yields (before cs : List Check) (good : α → Prop) :
    Except RecordFault α → Prop
  | .error fault => firstFault? before cs = some fault
  | .ok a => firstFault? before cs = none ∧ good a

theorem yields_append_iff (h : firstFault? before cs = none)
    {r : Except RecordFault α} :
    Yields before (cs ++ cs') good r ↔ Yields (before ++ cs) cs' good r := by
  cases r <;> simp only [Yields, firstFault?_append, h, Option.none_or]

theorem Yields.bind {r : Except RecordFault α}
    {f : α → Except RecordFault β} (h : Yields before cs good r)
    (hf : ∀ a, good a → Yields (before ++ cs) cs' good' (f a)) :
    Yields before (cs ++ cs') good' (r >>= f) := by
  cases r with
  | error fault =>
      have hfault : firstFault? before cs = some fault := h
      exact firstFault?_append.trans (by rw [hfault, Option.some_or])
  | ok a => exact (yields_append_iff h.1).mpr (hf a h.2)

/-- A step that keeps something up for each of a list keeps it up for all. -/
theorem Yields.foldlM {step : β → α → Except RecordFault β}
    {checks : α → List Check} (kept : List Check → List α → β → Prop)
    (hstep : ∀ before done b a, kept before done b →
      Yields before (checks a) (kept (before ++ checks a) (done ++ [a]))
        (step b a))
    {done : List α} {b : β} (h : kept before done b) (l : List α) :
    Yields before (l.flatMap checks)
      (kept (before ++ l.flatMap checks) (done ++ l)) (l.foldlM step b) := by
  induction l generalizing before done b with
  | nil => exact ⟨rfl, by simpa using h⟩
  | cons a l ih =>
      rw [List.foldlM_cons, List.flatMap_cons]
      refine (hstep before done b a h).bind fun b' hb' => ?_
      simpa only [List.append_assoc, List.singleton_append] using ih hb'

end Check

namespace TokenMap

open Check RecordSet

variable {α : Type} {x : TokenMap α} {kind : RecordKind} {token : α → Token}
  {before : List Check} {l : List α}

theorem yields_expectTable (kind : RecordKind) (t : Token) :
    Yields before [.table kind t] (fun _ => True) (expectTable kind.fits t) := by
  rw [expectTable]
  cases h : kind.fits t <;> simp [Yields, h, fault]

theorem yields_expectOwner (m : MethodRecord) :
    Yields before (m.declaringType?.toList.map (Check.owner m.token))
      (fun _ => True) (expectOwner m) := by
  rw [expectOwner]
  cases m.declaringType? with
  | none => simp [Yields]
  | some owner => cases h : owner.isType <;> simp [Yields, h, fault]

/-- The map finds in its entries what a search finds in a list of records. -/
structure Holds (x : TokenMap α) (token : α → Token) (l : List α) : Prop where
  find? (t : Token) : x.find? t = l.find? fun a => token a == t
  size : x.size = l.length

theorem find?_cons (t t' : Token) (a : α) :
    find? ⟨(t, a) :: x.entries⟩ t' = if t = t' then some a else x.find? t' := by
  rw [find?, List.lookup_cons, find?]
  by_cases h : t = t'
  · simp [h]
  · simp [h, beq_false_of_ne (Ne.symm h)]

/-- A record with a new token is found, and nothing that was found is lost. -/
theorem Holds.cons (h : x.Holds token l) {a : α}
    (hnew : x.find? (token a) = none) :
    Holds ⟨(token a, a) :: x.entries⟩ token (l ++ [a]) := by
  constructor
  case find? =>
      intro t
      rw [find?_cons, List.find?_append, ← h.find?]
      by_cases ht : token a = t
      · simp [← ht, hnew]
      · simp [ht]
  case size => simpa [TokenMap.size] using h.size

/-- What a map holds after checks, and that the tokens in it are those of its kind
that they have looked for. -/
structure Covers (x : TokenMap α) (kind : RecordKind) (token : α → Token)
    (before : List Check) (l : List α) : Prop extends x.Holds token l where
  seen : Seen kind (l.map token) before

theorem covers_empty (hcs : ∀ t, .unseen kind t ∉ before) :
    (empty : TokenMap α).Covers kind token before [] :=
  ⟨⟨fun _ => rfl, rfl⟩, fun t => by simp [hcs t]⟩

theorem Covers.skip (h : x.Covers kind token before l) (cs : List Check)
    (hcs : ∀ t, .unseen kind t ∉ cs) : x.Covers kind token (before ++ cs) l :=
  ⟨h.toHolds, h.seen.skip hcs⟩

theorem Covers.isSome_find?_iff (h : x.Covers kind token before l) (t : Token) :
    (x.find? t).isSome = true ↔ .unseen kind t ∈ before := by
  rw [h.find?, ← h.seen, List.find?_isSome]
  simp

theorem Covers.insertNew (h : x.Covers kind token before l) (a : α) :
    Yields before [.unseen kind (token a)]
      (fun x' => x'.Covers kind token (before ++ [.unseen kind (token a)])
        (l ++ [a])) (x.insertNew (token a) a) := by
  have hseen := h.isSome_find?_iff (token a)
  rw [TokenMap.insertNew]
  split
  case isTrue hfound =>
      simp [Yields, hseen.mp hfound, fault]
  case isFalse hnew =>
      have hnone := Option.not_isSome_iff_eq_none.mp hnew
      refine ⟨by simp [mt hseen.mpr hnew], h.toHolds.cons hnone, fun t => ?_⟩
      simp [← h.seen t]

theorem Covers.add (h : x.Covers kind token before l) (a : α) :
    Yields before (tokenChecks kind (token a))
      (fun x' => x'.Covers kind token (before ++ tokenChecks kind (token a))
        (l ++ [a])) (x.add kind.fits token a) := by
  have hchecks : tokenChecks kind (token a) =
      [.table kind (token a)] ++ [.unseen kind (token a)] := rfl
  rw [hchecks, ← List.append_assoc]
  refine (yields_expectTable kind (token a)).bind fun _ _ => ?_
  exact (h.skip _ (by simp)).insertNew a

theorem Covers.addAll (h : x.Covers kind token before l) (rest : List α) :
    Yields before (rest.flatMap fun a => tokenChecks kind (token a))
      (fun x' => x'.Covers kind token
        (before ++ rest.flatMap fun a => tokenChecks kind (token a)) (l ++ rest))
      (rest.foldlM (TokenMap.add kind.fits token) x) :=
  Yields.foldlM (fun before l x => Covers x kind token before l)
    (fun _ _ _ a hx => hx.add a) h rest

theorem Covers.addMethod {x : TokenMap MethodRecord} {l : List MethodRecord}
    (h : x.Covers .method MethodRecord.token before l) (m : MethodRecord) :
    Yields before (methodChecks m)
      (fun x' => x'.Covers .method MethodRecord.token (before ++ methodChecks m)
        (l ++ [m])) (x.addMethod m) := by
  have hchecks : methodChecks m = [.table .method m.token] ++
      (m.declaringType?.toList.map (Check.owner m.token) ++
        [.unseen .method m.token]) := rfl
  rw [hchecks]
  have htable := h.skip [.table .method m.token] (by simp)
  have howner := htable.skip
    (m.declaringType?.toList.map (Check.owner m.token)) (by simp)
  refine (yields_expectTable .method m.token).bind fun _ _ =>
    (yields_expectOwner m).bind fun _ _ => ?_
  simpa only [List.append_assoc] using howner.insertNew m

theorem Covers.addMethods {x : TokenMap MethodRecord} {l : List MethodRecord}
    (h : x.Covers .method MethodRecord.token before l)
    (rest : List MethodRecord) :
    Yields before (rest.flatMap methodChecks)
      (fun x' => x'.Covers .method MethodRecord.token
        (before ++ rest.flatMap methodChecks) (l ++ rest))
      (rest.foldlM TokenMap.addMethod x) :=
  Yields.foldlM
    (fun before l x => Covers x .method MethodRecord.token before l)
    (fun _ _ _ m hx => hx.addMethod m) h rest

/-- What the maps of fields and of types hold after checks. -/
structure CoverTypes (maps : TokenMap FieldRecord × TokenMap TypeRecord)
    (before : List Check) (l : List TypeRecord) : Prop where
  fields : maps.1.Covers .field FieldRecord.token before
    (l.flatMap TypeRecord.fields)
  types : maps.2.Covers .type TypeRecord.token before l

theorem CoverTypes.addType {maps : TokenMap FieldRecord × TokenMap TypeRecord}
    {l : List TypeRecord} (h : CoverTypes maps before l) (t : TypeRecord) :
    Yields before (typeChecks t)
      (fun maps' => CoverTypes maps' (before ++ typeChecks t) (l ++ [t]))
      (TokenMap.addType maps t) := by
  have hchecks : typeChecks t = [.table .type t.token] ++
      (t.fields.flatMap (fun f => tokenChecks .field f.token) ++
        ([.unseen .type t.token] ++ [])) := by
    rw [typeChecks, fieldTokens, List.flatMap_map]
    rfl
  rw [hchecks]
  have hfields := h.fields.skip [.table .type t.token] (by simp)
  have htypes := h.types.skip [.table .type t.token] (by simp)
  refine (yields_expectTable .type t.token).bind fun _ _ =>
    (hfields.addAll t.fields).bind fun fields hfields' =>
      ((htypes.skip _ (by simp)).insertNew t).bind fun types htypes' => ?_
  refine ⟨rfl, ?_, ?_⟩
  · simpa using hfields'.skip [.unseen .type t.token] (by simp)
  · simpa using htypes'

theorem CoverTypes.addTypes {maps : TokenMap FieldRecord × TokenMap TypeRecord}
    {l : List TypeRecord} (h : CoverTypes maps before l)
    (rest : List TypeRecord) :
    Yields before (rest.flatMap typeChecks)
      (fun maps' => CoverTypes maps' (before ++ rest.flatMap typeChecks)
        (l ++ rest)) (rest.foldlM TokenMap.addType maps) :=
  Yields.foldlM (fun before l maps => CoverTypes maps before l)
    (fun _ _ _ t hmaps => hmaps.addType t) h rest

end TokenMap

namespace IndexedStore

open Check RecordSet

variable {x : IndexedStore} {rs : RecordSet} {s : Store}

/-- The maps find what a search in the records of their kind finds. -/
structure Holds (x : IndexedStore) (rs : RecordSet) : Prop where
  methods : x.methods.Holds MethodRecord.token rs.methods
  members : x.members.Holds MemberRecord.token rs.members
  types : x.types.Holds TypeRecord.token rs.types
  fields : x.fields.Holds FieldRecord.token rs.fields

/-- Filling the maps goes through the checks of the record set. -/
theorem yields_ofRecordSet (rs : RecordSet) :
    Yields [] rs.checks (fun x => Holds x rs) (ofRecordSet rs) := by
  rw [ofRecordSet, checks, List.flatMap_map, List.flatMap_map]
  -- Each kind starts with an empty map, since the checks so far are of other kinds.
  refine ((TokenMap.covers_empty (by simp)).addMethods rs.methods).bind
    fun methods hmethods => ?_
  refine ((TokenMap.covers_empty (by simp)).addAll rs.members).bind
    fun members hmembers => ?_
  have hnone : TokenMap.CoverTypes (.empty, .empty)
      ([] ++ rs.methods.flatMap methodChecks ++
        rs.members.flatMap fun m => tokenChecks .member m.token) [] :=
    ⟨TokenMap.covers_empty (by simp), TokenMap.covers_empty (by simp)⟩
  rw [← List.append_nil (rs.looseFields.flatMap _)]
  refine (hnone.addTypes rs.types).bind fun maps hmaps => ?_
  refine (hmaps.fields.addAll rs.looseFields).bind fun fields hfields => ?_
  exact ⟨rfl, hmethods.toHolds, hmembers.toHolds, hmaps.types.toHolds,
    hfields.toHolds⟩

/-- Lookups and counts give the same as in a store without maps. -/
structure Agrees (x : IndexedStore) (s : Store) : Prop where
  method? : x.method? = s.method?
  member? : x.member? = s.member?
  type? : x.type? = s.type?
  field? : x.field? = s.field?
  body? : x.body? = s.body?
  fieldsOf? : x.fieldsOf? = s.fieldsOf?
  baseOf? : x.baseOf? = s.baseOf?
  methodCount : x.methodCount = s.methodCount
  typeCount : x.typeCount = s.typeCount

theorem Holds.agrees (h : x.Holds s.records) : x.Agrees s := by
  have hmethod : x.method? = s.method? := funext h.methods.find?
  have htype : x.type? = s.type? := funext h.types.find?
  refine ⟨hmethod, funext h.members.find?, htype, funext h.fields.find?, ?_, ?_, ?_,
    h.methods.size, h.types.size⟩
  · funext t
    rw [body?, Store.body?, hmethod]
  · funext t
    rw [fieldsOf?, Store.fieldsOf?, htype]
  · funext t
    rw [baseOf?, Store.baseOf?, htype]

/-- The maps are filled exactly for the records that build a store, and other records
are refused for the same fault. Lookups in the maps are then lookups in the store. -/
theorem build_agrees (records : List Record) :
    (∃ fault, Store.build records = .error fault ∧
      build records = .error fault) ∨
    ∃ s x, Store.build records = .ok s ∧ build records = .ok x ∧ x.Agrees s := by
  have hyields := yields_ofRecordSet (.ofList records)
  cases hbuild : ofRecordSet (.ofList records) with
  | error fault =>
      rw [hbuild] at hyields
      have hfault : (RecordSet.ofList records).fault? = some fault :=
        (fault?_eq _).trans hyields
      exact Or.inl ⟨fault, Store.ofRecordSet_eq_error_iff.mpr hfault, hbuild⟩
  | ok x =>
      rw [hbuild] at hyields
      have hsound : (RecordSet.ofList records).fault? = none :=
        (fault?_eq _).trans hyields.1
      have hstore : Store.build records = .ok ⟨.ofList records, hsound⟩ :=
        Store.ofRecordSet_eq_ok_iff.mpr rfl
      exact Or.inr ⟨_, x, hstore, hbuild, Holds.agrees hyields.2⟩

/-- A loose field under the token of a listed one is a duplicate, also if it was
added first. -/
example :
    let f : FieldRecord := ⟨.ofParts Token.fieldTable 1, "", "", none⟩
    let t : TypeRecord := ⟨.ofParts Token.typeDefTable 1, "", "", none, [f]⟩
    build [.field f, .type t] = .error (.duplicate f.token) := rfl

end IndexedStore

end HandlerRecognition
