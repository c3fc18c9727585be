import HandlerRecognition.Opcode.Encoding
import HandlerRecognition.Proofs.Keyed
import Mathlib.Data.List.Infix

/-!
# Decoding opcodes

The leading byte and the opcode byte determine an opcode, and no opcode byte of
a one-byte opcode is the byte `0xFE`. So the first byte tells how long an
encoding is, no encoding is a prefix of another, and `Opcode.decode?` finds the
opcode whose encoding a byte string begins with (`Opcode.decode?_eq_some_iff`).

`Opcode.decodeMany?` reads several opcodes one after the other. Reading undoes
writing, whatever follows, and what was read was written there.
-/

namespace HandlerRecognition

namespace Opcode

/-- The leading byte and the opcode byte as one number. -/
def rank (lead code : UInt8) : Nat :=
  lead.toNat * 256 + code.toNat

/-- The order of the opcodes is that of their encodings. -/
theorem isChain_rank :
    (all.map fun o => rank o.lead o.code).IsChain (· < ·) := by
  decide +kernel

theorem nodup_lead_code : (all.map fun o => (o.lead, o.code)).Nodup := by
  refine List.Nodup.of_map (fun bytes => rank bytes.1 bytes.2) ?_
  rw [List.map_map]
  exact (List.isChain_iff_pairwise.mp isChain_rank).imp Nat.ne_of_lt

theorem ofBytes?_eq_some_iff {lead code : UInt8} {o : Opcode} :
    ofBytes? lead code = some o ↔ o.lead = lead ∧ o.code = code := by
  have hfind : ofBytes? lead code = some o ↔
      o ∈ all ∧ (o.lead, o.code) = (lead, code) :=
    find?_key_eq_some_iff nodup_lead_code (k := (lead, code))
  simpa using hfind

theorem lead_eq_extension_iff {o : Opcode} :
    o.lead = extension ↔ o.isExtended = true := by
  rw [lead]
  split <;> simp_all [extension]

theorem lead_eq_zero_iff {o : Opcode} :
    o.lead = 0 ↔ o.isExtended = false := by
  rw [lead]
  split <;> simp_all [extension]

/-- The byte in front of two-byte opcodes is not a one-byte opcode. -/
theorem code_ne_extension {o : Opcode} (h : o.isExtended = false) :
    o.code ≠ extension := by
  have hall : ∀ o ∈ all, o.isExtended = false → o.code ≠ extension := by
    decide +kernel
  exact hall o o.mem_all h

section Encode

variable {o : Opcode} {first second : UInt8} {rest : List UInt8}

theorem encode_of_extended (h : o.isExtended = true) :
    o.encode = [extension, o.code] :=
  if_pos h

theorem encode_of_single (h : o.isExtended = false) : o.encode = [o.code] :=
  if_neg (by simp [h])

/-- An opcode without a leading byte is written as one byte. -/
theorem encode_eq (o : Opcode) :
    o.encode = if o.lead = 0 then [o.code] else [extension, o.code] := by
  cases h : o.isExtended with
  | true => rw [encode_of_extended h, if_neg (by simp [lead_eq_zero_iff, h])]
  | false => rw [encode_of_single h, if_pos (lead_eq_zero_iff.mpr h)]

@[simp] theorem encode_ne_nil (o : Opcode) : o.encode ≠ [] := by
  rw [encode]
  split <;> simp

/-- After the byte `0xFE` a second byte is needed. -/
theorem encode_prefix_extension_iff :
    o.encode <+: extension :: rest ↔
      o.isExtended = true ∧ [o.code] <+: rest := by
  cases h : o.isExtended with
  | true => simp [encode_of_extended h]
  | false => simp [encode_of_single h, code_ne_extension h]

theorem encode_prefix_cons_iff (hfirst : first ≠ extension) :
    o.encode <+: first :: rest ↔ o.isExtended = false ∧ o.code = first := by
  cases h : o.isExtended with
  | true => simp [encode_of_extended h, hfirst.symm]
  | false => simp [encode_of_single h]

end Encode

section Decode

variable {bytes : List UInt8} {o : Opcode} {n : Nat}

theorem map_ofBytes?_eq_some_iff {lead code : UInt8} {size : Nat} :
    (ofBytes? lead code).map (·, size) = some (o, n) ↔
      (o.lead = lead ∧ o.code = code) ∧ size = n := by
  rw [Option.map_eq_some_iff, ← ofBytes?_eq_some_iff]
  simp

/-- What is decoded is the opcode whose encoding stands at the front. -/
theorem decode?_eq_some_iff :
    decode? bytes = some (o, n) ↔ n = o.size ∧ o.encode <+: bytes := by
  match bytes with
  | [] => simp
  | first :: rest =>
      by_cases hfirst : first = extension
      · subst hfirst
        rw [encode_prefix_extension_iff]
        match rest with
        | [] => simp [decode?]
        | second :: rest =>
            simp only [decode?, if_true, map_ofBytes?_eq_some_iff,
              lead_eq_extension_iff]
            cases h : o.isExtended <;> simp [size, h, eq_comm, and_comm]
      · rw [encode_prefix_cons_iff hfirst]
        simp only [decode?, if_neg hfirst, map_ofBytes?_eq_some_iff,
          lead_eq_zero_iff]
        cases h : o.isExtended <;> simp [size, h, eq_comm, and_comm]

theorem decode?_encode_append (o : Opcode) (tail : List UInt8) :
    decode? (o.encode ++ tail) = some (o, o.size) :=
  decode?_eq_some_iff.mpr ⟨rfl, List.prefix_append _ _⟩

theorem decode?_eq_none_iff :
    decode? bytes = none ↔ ∀ o : Opcode, ¬ o.encode <+: bytes := by
  rw [Option.eq_none_iff_forall_ne_some]
  constructor
  · intro h o hbegins
    exact h (o, o.size) (decode?_eq_some_iff.mpr ⟨rfl, hbegins⟩)
  · intro h decoded hdecoded
    obtain ⟨o, n⟩ := decoded
    exact h o (decode?_eq_some_iff.mp hdecoded).2

/-- What was decoded lies inside the byte string, and was written there. -/
theorem of_decode?_eq_some (h : decode? bytes = some (o, n)) :
    n = o.size ∧ n ≤ bytes.length ∧ o.encode ++ bytes.drop n = bytes := by
  obtain ⟨rfl, tail, rfl⟩ := decode?_eq_some_iff.mp h
  refine ⟨rfl, ?_, ?_⟩
  · rw [List.length_append, length_encode]
    exact Nat.le_add_right _ _
  · rw [← length_encode, List.drop_left]

end Decode

/-- The encodings of several opcodes, one behind the other. -/
def encodeMany (opcodes : List Opcode) : List UInt8 :=
  opcodes.flatMap encode

@[simp] theorem encodeMany_nil : encodeMany [] = [] := rfl

theorem encodeMany_cons (o : Opcode) (opcodes : List Opcode) :
    encodeMany (o :: opcodes) = o.encode ++ encodeMany opcodes := rfl

/-- A number of opcodes read off the front of a byte string, each one where the
one before it ends, with what is left of the string. -/
def decodeMany? : Nat → List UInt8 → Option (List Opcode × List UInt8)
  | 0, bytes => some ([], bytes)
  | count + 1, bytes =>
    (decode? bytes).bind fun (o, size) =>
      (decodeMany? count (bytes.drop size)).map fun (opcodes, rest) =>
        (o :: opcodes, rest)

theorem decodeMany?_succ_eq_some_iff {count : Nat} {bytes rest : List UInt8}
    {o : Opcode} {opcodes : List Opcode} :
    decodeMany? (count + 1) bytes = some (o :: opcodes, rest) ↔
      ∃ size, decode? bytes = some (o, size) ∧
        decodeMany? count (bytes.drop size) = some (opcodes, rest) := by
  simp only [decodeMany?, Option.bind_eq_some_iff, Option.map_eq_some_iff]
  constructor
  · rintro ⟨⟨o', size⟩, hfirst, ⟨opcodes', rest'⟩, hothers, heq⟩
    simp only [Prod.mk.injEq, List.cons.injEq] at heq
    obtain ⟨⟨rfl, rfl⟩, rfl⟩ := heq
    exact ⟨size, hfirst, hothers⟩
  · rintro ⟨size, hfirst, hothers⟩
    exact ⟨(o, size), hfirst, (opcodes, rest), hothers, rfl⟩

/-- Reading several opcodes finds those that are written there, and no
others. -/
theorem decodeMany?_eq_some_iff {count : Nat} {bytes rest : List UInt8}
    {opcodes : List Opcode} :
    decodeMany? count bytes = some (opcodes, rest) ↔
      opcodes.length = count ∧ encodeMany opcodes ++ rest = bytes := by
  induction count generalizing bytes opcodes with
  | zero =>
      rw [decodeMany?, List.length_eq_zero_iff]
      cases opcodes with
      | nil => simp [eq_comm]
      | cons o opcodes => simp
  | succ count ih =>
      cases opcodes with
      | nil => simp [decodeMany?, Option.bind_eq_some_iff]
      | cons o opcodes =>
          rw [decodeMany?_succ_eq_some_iff, List.length_cons, encodeMany_cons,
            List.append_assoc, Nat.add_right_cancel_iff]
          constructor
          · rintro ⟨size, hfirst, hothers⟩
            obtain ⟨-, -, hbytes⟩ := of_decode?_eq_some hfirst
            obtain ⟨hlength, hrest⟩ := ih.mp hothers
            exact ⟨hlength, by rw [hrest, hbytes]⟩
          · rintro ⟨hlength, rfl⟩
            refine ⟨o.size, decode?_encode_append o _, ih.mpr ⟨hlength, ?_⟩⟩
            rw [← length_encode, List.drop_left]

/-- Encodings can be told apart, and decoding is the inverse of encoding.
Opcodes that are written one behind the other are read back with what follows
them, and a string from which opcodes can be read begins with their encodings.
Decoding fails exactly where no encoding stands at the front. -/
theorem decode?_inverts_encode :
    (∀ o : Opcode, o.encode = if o.lead = 0 then [o.code] else [0xFE, o.code]) ∧
      (∀ (opcodes : List Opcode) (tail : List UInt8),
        decodeMany? opcodes.length (encodeMany opcodes ++ tail) =
          some (opcodes, tail)) ∧
      (∀ (count : Nat) (bytes rest : List UInt8) (opcodes : List Opcode),
        decodeMany? count bytes = some (opcodes, rest) ↔
          opcodes.length = count ∧ encodeMany opcodes ++ rest = bytes) ∧
      (∀ (bytes : List UInt8) (o : Opcode) (n : Nat),
        decode? bytes = some (o, n) ↔
          n = o.size ∧ n ≤ bytes.length ∧ bytes.take n = o.encode) ∧
      ∀ bytes : List UInt8,
        decode? bytes = none ↔ ∀ o : Opcode, ¬ o.encode <+: bytes := by
  refine ⟨encode_eq, fun opcodes tail => ?_,
    fun _ _ _ _ => decodeMany?_eq_some_iff, fun bytes o n => ?_,
    fun _ => decode?_eq_none_iff⟩
  · exact decodeMany?_eq_some_iff.mpr ⟨rfl, rfl⟩
  · constructor
    · intro h
      obtain ⟨hsize, hle, hbytes⟩ := of_decode?_eq_some h
      refine ⟨hsize, hle, ?_⟩
      rw [← hbytes, hsize, ← length_encode, List.take_left]
    · rintro ⟨hsize, -, htake⟩
      exact decode?_eq_some_iff.mpr ⟨hsize, htake ▸ List.take_prefix n bytes⟩

/-- A two-byte opcode is read whole, and cannot be read from its first byte. -/
example :
    decodeMany? 2 [0x02, 0xFE, 0x0C, 0x05] = some ([.ldarg0, .ldloc], [0x05]) ∧
      decodeMany? 2 [0x02, 0xFE] = none := by
  decide +kernel

end Opcode

end HandlerRecognition
