import HandlerRecognition.Proofs.Matching.Explicit
import HandlerRecognition.Proofs.Metadata.Examination
import Mathlib.Data.Nat.Bitwise

/-!
# What an operand refers to

A token is made of a table byte and a row, and nothing of it is lost when it is taken
apart. The tables of methods, members, fields and types are different
(`RecordKind.eq_of_fits`), so the token in an operand is of at most one of these kinds.
A store has checked the tables of its records when it was built, and therefore a
lookup at an instruction finds a record exactly where the operand is the token of the
record (`Site.method?_iff_mem`). At most one of the lookups finds something, and so it
does not matter in which order a verifier tries two of them.
-/

namespace HandlerRecognition

namespace Token

/-- The low twenty-four bits of a word. -/
def rowMask : UInt32 := 0x00FFFFFF

theorem toNat_and_rowMask (w : UInt32) :
    (w &&& rowMask).toNat = w.toNat % 2 ^ 24 := by
  rw [UInt32.toNat_and]
  exact Nat.and_two_pow_sub_one_eq_mod w.toNat 24

theorem toNat_value_ofParts (b : UInt8) (r : UInt32) :
    (ofParts b r).value.toNat = b.toNat * 2 ^ 24 + r.toNat % 2 ^ 24 := by
  have hb := b.toNat_lt
  have hrow : r.toNat % 2 ^ 24 < 2 ^ 24 := Nat.mod_lt _ (Nat.two_pow_pos 24)
  have hlt : b.toNat * 2 ^ 24 + r.toNat % 2 ^ 24 < 2 ^ 32 := by omega
  have hlimit : rowLimit.toNat = 2 ^ 24 := rfl
  rw [ofParts, UInt32.toNat_add, UInt32.toNat_mul, UInt32.toNat_mod,
    UInt8.toNat_toUInt32, hlimit, Nat.mod_add_mod]
  exact Nat.mod_eq_of_lt hlt

theorem toNat_shiftLeft_table (b : UInt8) :
    (b.toUInt32 <<< 24).toNat = b.toNat <<< 24 := by
  have hb := b.toNat_lt
  have hlt : b.toNat <<< 24 < 2 ^ 32 := by
    rw [Nat.shiftLeft_eq]
    omega
  rw [UInt32.toNat_shiftLeft, UInt8.toNat_toUInt32]
  exact Nat.mod_eq_of_lt hlt

theorem value_ofParts (b : UInt8) (r : UInt32) :
    (ofParts b r).value = b.toUInt32 <<< 24 ||| r &&& rowMask := by
  have hrow : r.toNat % 2 ^ 24 < 2 ^ 24 := Nat.mod_lt _ (Nat.two_pow_pos 24)
  apply UInt32.toNat_inj.mp
  -- The shifted byte and the masked row have no bit in common.
  calc (ofParts b r).value.toNat
      = b.toNat <<< 24 + r.toNat % 2 ^ 24 := by
        rw [toNat_value_ofParts, Nat.shiftLeft_eq]
    _ = b.toNat <<< 24 ||| r.toNat % 2 ^ 24 := Nat.shiftLeft_add_eq_or_of_lt hrow _
    _ = (b.toUInt32 <<< 24 ||| r &&& rowMask).toNat := by
        rw [UInt32.toNat_or, toNat_shiftLeft_table, toNat_and_rowMask]

/-- A row that is too large loses its upper byte. -/
example : (ofParts fieldTable 0x12000001).value = 0x04000001 := by decide

theorem table_eq_shiftRight (t : Token) :
    t.table = (t.value >>> 24).toUInt8 := by
  apply UInt8.toNat_inj.mp
  simp [table, rowLimit, Nat.shiftRight_eq_div_pow]

theorem row_eq_and_rowMask (t : Token) : t.row = t.value &&& rowMask := by
  apply UInt32.toNat_inj.mp
  rw [toNat_and_rowMask, row, UInt32.toNat_mod]
  rfl

end Token

namespace RecordKind

/-- The kind of record that a table is for. -/
def ofTable? (table : UInt8) : Option RecordKind :=
  if table = Token.methodTable then some .method
  else if table = Token.memberTable then some .member
  else if table = Token.fieldTable then some .field
  else if table = Token.typeDefTable ∨ table = Token.typeRefTable ∨
      table = Token.typeSpecTable then some .type
  else none

theorem ofTable?_of_fits {k : RecordKind} {t : Token} (h : k.fits t = true) :
    ofTable? t.table = some k := by
  cases k with
  | method =>
      rw [show t.table = Token.methodTable from beq_iff_eq.mp h]
      rfl
  | member =>
      rw [show t.table = Token.memberTable from beq_iff_eq.mp h]
      rfl
  | type =>
      simp only [fits, Token.isType, Bool.or_eq_true, beq_iff_eq] at h
      rcases h with (h | h) | h
      all_goals
        rw [h]
        rfl
  | field =>
      rw [show t.table = Token.fieldTable from beq_iff_eq.mp h]
      rfl

/-- No token is of two kinds. -/
theorem eq_of_fits {k k' : RecordKind} {t : Token} (h : k.fits t = true)
    (h' : k'.fits t = true) : k = k' :=
  Option.some.inj ((ofTable?_of_fits h).symm.trans (ofTable?_of_fits h'))

end RecordKind

namespace Instruction

/-- The token in the operand, if it is of a kind. -/
def tokenOf? (i : Instruction) (k : RecordKind) : Option Token :=
  i.token?.filter k.fits

theorem tokenOf?_eq_some_iff {i : Instruction} {k : RecordKind} {t : Token} :
    i.tokenOf? k = some t ↔ i.operand = .token t ∧ k.fits t = true := by
  rw [tokenOf?, Option.filter_eq_some_iff, token?, Operand.token?_eq_some_iff]

theorem tokenOf?_eq_none_or {k k' : RecordKind} (hne : k ≠ k')
    (i : Instruction) : i.tokenOf? k = none ∨ i.tokenOf? k' = none := by
  cases h : i.tokenOf? k with
  | none => exact Or.inl rfl
  | some t =>
      cases h' : i.tokenOf? k' with
      | none => exact Or.inr rfl
      | some t' =>
          obtain ⟨hoperand, hfits⟩ := tokenOf?_eq_some_iff.mp h
          obtain ⟨hoperand', hfits'⟩ := tokenOf?_eq_some_iff.mp h'
          obtain rfl : t = t' := Operand.token.inj (hoperand.symm.trans hoperand')
          exact absurd (RecordKind.eq_of_fits hfits hfits') hne

/-- The token in the operand as each kind of token. -/
def tokens (i : Instruction) : List (Option Token) :=
  [i.methodToken?, i.memberToken?, i.fieldToken?, i.typeToken?]

theorem tokens_eq (i : Instruction) :
    i.tokens = [.method, .member, .field, .type].map i.tokenOf? := rfl

theorem pairwise_tokens (i : Instruction) :
    i.tokens.Pairwise fun a b => a = none ∨ b = none := by
  have hdistinct : [RecordKind.method, .member, .field, .type].Nodup := by decide
  rw [tokens_eq, List.pairwise_map]
  exact hdistinct.imp fun hne => i.tokenOf?_eq_none_or hne

theorem mem_tokens_iff {i : Instruction} {t : Token} :
    some t ∈ i.tokens ↔
      i.operand = .token t ∧ ∃ k : RecordKind, k.fits t = true := by
  have hkinds (k : RecordKind) : k ∈ [RecordKind.method, .member, .field, .type] := by
    cases k <;> decide
  rw [tokens_eq, List.mem_map]
  constructor
  · rintro ⟨k, -, hk⟩
    obtain ⟨hoperand, hfits⟩ := tokenOf?_eq_some_iff.mp hk
    exact ⟨hoperand, k, hfits⟩
  · rintro ⟨hoperand, k, hfits⟩
    exact ⟨k, hkinds k, tokenOf?_eq_some_iff.mpr ⟨hoperand, hfits⟩⟩

end Instruction

namespace Site

variable {s : Site} {offset : Nat}

/-- Of two lookups for different kinds of records one finds nothing. -/
theorem lookup_eq_none_or {α β : Type} {k k' : RecordKind} (hne : k ≠ k')
    (f : Token → Option α) (g : Token → Option β) :
    ((s.instruction? offset).bind fun i => i.tokenOf? k).bind f = none ∨
      ((s.instruction? offset).bind fun i => i.tokenOf? k').bind g = none := by
  cases s.instruction? offset with
  | none => exact Or.inl rfl
  | some i =>
      rw [Option.bind_some, Option.bind_some]
      refine (i.tokenOf?_eq_none_or hne).imp (fun h => ?_) fun h => ?_
      · rw [h, Option.bind_none]
      · rw [h, Option.bind_none]

theorem method?_or_member? (s : Site) (offset : Nat) :
    s.method? offset = none ∨ s.member? offset = none :=
  lookup_eq_none_or (show RecordKind.method ≠ .member by decide) _ _

theorem method?_or_field? (s : Site) (offset : Nat) :
    s.method? offset = none ∨ s.field? offset = none :=
  lookup_eq_none_or (show RecordKind.method ≠ .field by decide) _ _

theorem member?_or_field? (s : Site) (offset : Nat) :
    s.member? offset = none ∨ s.field? offset = none :=
  lookup_eq_none_or (show RecordKind.member ≠ .field by decide) _ _

/-- A record is found where the operand is its token. That the token is of the right
table was checked when the store was built. -/
theorem lookup_eq_some_iff {α : Type} {kind : Token → Bool} {find? : Token → Option α}
    {token : α → Token} {records : List α}
    (hfind : ∀ t a, find? t = some a ↔ a ∈ records ∧ token a = t)
    (hkind : ∀ a ∈ records, kind (token a) = true) (a : α) :
    ((s.instruction? offset).bind fun i => i.token?.filter kind).bind find? = some a ↔
      s.body.HasToken (s.start + offset) (token a) ∧ a ∈ records := by
  simp only [Option.bind_eq_some_iff (f := find?), bind_token?_eq_some_iff, hfind]
  constructor
  · rintro ⟨t, ⟨htoken, -⟩, ha, rfl⟩
    exact ⟨htoken, ha⟩
  · rintro ⟨htoken, ha⟩
    exact ⟨token a, ⟨htoken, hkind a ha⟩, ha, rfl⟩

theorem method?_iff_mem (m : MethodRecord) :
    s.method? offset = some m ↔
      s.body.HasToken (s.start + offset) m.token ∧
        m ∈ s.env.store.records.methods :=
  lookup_eq_some_iff (fun _ _ => Store.method?_eq_some_iff)
    s.env.store.consistent.isMethod m

theorem member?_iff_mem (m : MemberRecord) :
    s.member? offset = some m ↔
      s.body.HasToken (s.start + offset) m.token ∧
        m ∈ s.env.store.records.members :=
  lookup_eq_some_iff (fun _ _ => Store.member?_eq_some_iff)
    s.env.store.consistent.isMember m

theorem field?_iff_mem (f : FieldRecord) :
    s.field? offset = some f ↔
      s.body.HasToken (s.start + offset) f.token ∧
        f ∈ s.env.store.records.fields :=
  lookup_eq_some_iff (fun _ _ => Store.field?_eq_some_iff)
    s.env.store.consistent.isField f

end Site

namespace Inspection

/-- The name and the signature of the method of this module that the instruction at an
offset calls. -/
def calledMethod? (s : Site) (offset : Nat) : Option (String × Signature) :=
  (s.method? offset).map fun m => (m.name, m.signature)

/-- The name and the signature of the member of another module that the instruction at
an offset calls. -/
def calledMember? (s : Site) (offset : Nat) : Option (String × Signature) :=
  (s.member? offset).map fun m => (m.name, m.signature)

/-- Whether what is called is the named accessor and gives a value, with a second
candidate for what is called if there is no first one. -/
def readsThroughEither (first second : Option (String × Signature))
    (accessor : String) : Bool :=
  (first <|> second).any fun (name, signature) =>
    name == accessor && signature.returnsValue

/-- The order of the candidates does not matter, since there is at most one. -/
theorem readsThroughEither_comm (s : Site) (offset : Nat) (accessor : String) :
    readsThroughEither (calledMember? s offset) (calledMethod? s offset) accessor =
      readsThroughEither (calledMethod? s offset) (calledMember? s offset)
        accessor := by
  rw [readsThroughEither, readsThroughEither, calledMethod?, calledMember?]
  rcases s.method?_or_member? offset with h | h
  · simp [h]
  · simp [h]

end Inspection

/-- The operand of an instruction is a token of at most one kind. -/
structure Instruction.RefersOnce (i : Instruction) : Prop where
  /-- Of any two kinds the operand lacks one. -/
  exclusive : i.tokens.Pairwise fun a b => a = none ∨ b = none
  /-- What is found is the operand, and a token of some kind is found. -/
  mem_iff (t : Token) : some t ∈ i.tokens ↔
    i.operand = .token t ∧ ∃ k : RecordKind, k.fits t = true

/-- At most one record is found at an offset, by its own token. -/
structure Site.FindsOnce (s : Site) (offset : Nat) : Prop where
  method?_or_member? : s.method? offset = none ∨ s.member? offset = none
  method?_or_field? : s.method? offset = none ∨ s.field? offset = none
  member?_or_field? : s.member? offset = none ∨ s.field? offset = none
  method?_iff (m : MethodRecord) : s.method? offset = some m ↔
    s.body.HasToken (s.start + offset) m.token ∧ m ∈ s.env.store.records.methods
  member?_iff (m : MemberRecord) : s.member? offset = some m ↔
    s.body.HasToken (s.start + offset) m.token ∧ m ∈ s.env.store.records.members
  field?_iff (f : FieldRecord) : s.field? offset = some f ↔
    s.body.HasToken (s.start + offset) f.token ∧ f ∈ s.env.store.records.fields

/-- Kinds of tokens share nothing. A word is taken apart into table and row and put
together again by shifts and masks without a loss. The token in an operand is of at
most one of the four kinds. A site finds at most one record at an offset, and it does
so exactly where the operand is the token of that record. So an accessor of the stack
is recognised alike whether it is looked up among the members of other modules first
or among the methods of this one. -/
theorem Site.findsOnce :
    (∀ t : Token, Token.ofParts t.table t.row = t ∧
      t.table = (t.value >>> 24).toUInt8 ∧ t.row = t.value &&& Token.rowMask) ∧
    (∀ (b : UInt8) (r : UInt32), (Token.ofParts b r).table = b ∧
      (Token.ofParts b r).row.toNat = r.toNat % 2 ^ 24 ∧
      (Token.ofParts b r).value = b.toUInt32 <<< 24 ||| r &&& Token.rowMask) ∧
    (∀ i : Instruction, i.RefersOnce) ∧
    (∀ (s : Site) (offset : Nat), s.FindsOnce offset) ∧
    ∀ (s : Site) (accessor : String),
      Inspection.readsThrough s accessor =
        Inspection.readsThroughEither (Inspection.calledMember? s 2)
          (Inspection.calledMethod? s 2) accessor ∧
      Inspection.readsThrough s accessor =
        Inspection.readsThroughEither (Inspection.calledMethod? s 2)
          (Inspection.calledMember? s 2) accessor := by
  refine ⟨fun t => ?_, fun b r => ?_,
    fun i => ⟨i.pairwise_tokens, fun _ => Instruction.mem_tokens_iff⟩,
    fun s offset => ?_, fun s accessor => ?_⟩
  · exact ⟨t.ofParts_table_row, t.table_eq_shiftRight, t.row_eq_and_rowMask⟩
  · refine ⟨Token.table_ofParts b r, ?_, Token.value_ofParts b r⟩
    rw [Token.row_ofParts, UInt32.toNat_mod]
    rfl
  · exact ⟨s.method?_or_member? offset, s.method?_or_field? offset,
      s.member?_or_field? offset, method?_iff_mem, member?_iff_mem, field?_iff_mem⟩
  · exact ⟨rfl, Inspection.readsThroughEither_comm s 2 accessor⟩

end HandlerRecognition
