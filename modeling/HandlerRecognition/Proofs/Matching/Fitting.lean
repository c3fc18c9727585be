import HandlerRecognition.Matching.Shape

/-!
# Where shapes fit

A shape that fits has an instruction for each of its slots, and a shape that can
only fit a body as a whole has a slot for each instruction. From this it can be
read off two templates, without any body, that no body has both shapes: either
both must cover the whole body and differ in length or at some slot, or one of
them must, and the other has a slot that none of its slots has an opcode in
common with.

This is what `Template.clashes` looks for. `Template.not_fitsSomewhere_of_clashes`
says that it is right.
-/

namespace HandlerRecognition

theorem Extent.le_of_allows {e : Extent} {slots remaining : Nat}
    (h : e.allows slots remaining = true) : slots ≤ remaining := by
  cases e with
  | entire =>
      have heq : remaining = slots := by simpa [allows] using h
      omega
  | window => simpa [allows] using h

namespace Slot

/-- Whether no opcode is acceptable to both slots. -/
def disjoint : Slot → Slot → Bool
  | .exact o, s => !s.accepts o
  | .family f, .exact o => !f.contains o
  | .family f, .family g => f != g

theorem disjoint_iff {s s' : Slot} :
    s.disjoint s' = true ↔
      ∀ o, s.accepts o = true → s'.accepts o = false := by
  cases s with
  | exact o =>
      simp only [disjoint, accepts, Bool.not_eq_true', beq_iff_eq]
      constructor
      · rintro h o' rfl
        exact h
      · exact fun h => h o rfl
  | family f =>
      cases s' with
      | exact o =>
          simp only [disjoint, accepts, Bool.not_eq_true', beq_eq_false_iff_ne]
          constructor
          · rintro h o' hf rfl
            simp [h] at hf
          · intro h
            cases hf : f.contains o with
            | false => rfl
            | true => exact absurd rfl (h o hf)
      | family g =>
          simp only [disjoint, accepts, bne_iff_ne]
          constructor
          · intro hne o hf
            cases hg : g.contains o with
            | false => rfl
            | true =>
                have hsome : some f = some g :=
                  (Family.of?_eq_some_iff.mpr hf).symm.trans
                    (Family.of?_eq_some_iff.mpr hg)
                exact absurd (Option.some.inj hsome) hne
          · rintro h rfl
            obtain ⟨o, ho⟩ : ∃ o, f.contains o = true := by
              cases f with
              | loadLocal => exact ⟨.ldloc, rfl⟩
              | storeLocal => exact ⟨.stloc, rfl⟩
            simp [h o ho] at ho

end Slot

namespace Template

variable {t t' whole : Template} {body : Body} {start : Nat}

/-- Whether the shape of a template fits at some position that the anchor
allows. -/
def fitsSomewhere (t : Template) (body : Body) : Bool :=
  (t.anchor.span body.length).positions.any (t.fitsAt body)

theorem exists_fitsAt_of_fitsSomewhere (h : t.fitsSomewhere body = true) :
    ∃ p ∈ (t.anchor.span body.length).positions, t.fitsAt body p = true :=
  List.any_eq_true.mp h

/-- Where a shape fits, the body has room for it. -/
theorem add_length_le_of_fitsAt (h : t.fitsAt body start = true) :
    start + t.length ≤ body.length := by
  obtain ⟨hstart, hallows, -⟩ := fitsAt_iff.mp h
  have hlength : t.length ≤ body.length - start := Extent.le_of_allows hallows
  omega

/-- Where a shape fits, there is an instruction for each slot. -/
theorem exists_instruction_of_fitsAt (h : t.fitsAt body start = true)
    {k : Nat} {slot : Slot} (hslot : t.slots[k]? = some slot) :
    ∃ i, body[start + k]? = some i ∧ slot.accepts i.opcode = true := by
  have hroom := add_length_le_of_fitsAt h
  have hk : k < t.length := (List.getElem?_eq_some_iff.mp hslot).1
  have hlt : start + k < body.length := by omega
  have hi : body[start + k]? = some body[start + k] :=
    List.getElem?_eq_getElem hlt
  exact ⟨_, hi, (fitsAt_iff.mp h).2.2 k slot _ hslot hi⟩

/-- Whether the shape can only fit a body as a whole. -/
def isWhole (t : Template) : Bool :=
  t.extent == .entire && t.anchor == .start

theorem fitsAt_zero_of_isWhole (ht : t.isWhole = true)
    (h : t.fitsSomewhere body = true) :
    t.fitsAt body 0 = true ∧ body.length = t.length := by
  simp only [isWhole, Bool.and_eq_true, beq_iff_eq] at ht
  obtain ⟨p, hp, hfits⟩ := exists_fitsAt_of_fitsSomewhere h
  obtain rfl : p = 0 := by
    simp only [ht.2, Anchor.span, Span.mem_positions] at hp
    omega
  refine ⟨hfits, ?_⟩
  have hallows := (fitsAt_iff.mp hfits).2.1
  simpa [ht.1, Extent.allows] using hallows

/-- A shape that covers the whole body has a slot for each instruction. -/
theorem exists_slot_of_isWhole (ht : t.isWhole = true)
    (h : t.fitsSomewhere body = true) {n : Nat} {i : Instruction}
    (hi : body[n]? = some i) :
    ∃ slot, t.slots[n]? = some slot ∧ slot.accepts i.opcode = true := by
  obtain ⟨hfits, hlength⟩ := fitsAt_zero_of_isWhole ht h
  have hlt : n < body.length := (List.getElem?_eq_some_iff.mp hi).1
  have hn : n < t.slots.length := Nat.lt_of_lt_of_eq hlt hlength
  have hslot : t.slots[n]? = some t.slots[n] := List.getElem?_eq_getElem hn
  refine ⟨_, hslot, (fitsAt_iff.mp hfits).2.2 n _ i hslot ?_⟩
  rw [Nat.zero_add]
  exact hi

/-- Whether two lists of slots differ in length or are disjoint somewhere. -/
def differsFrom (t t' : Template) : Bool :=
  t.length != t'.length ||
    (t.slots.zip t'.slots).any fun (s, s') => s.disjoint s'

/-- Whether a slot is disjoint from all slots of another template. -/
def isForeignTo (t whole : Template) : Bool :=
  t.slots.any fun s => whole.slots.all s.disjoint

/-- Whether it can be seen without a body that no body has both shapes. -/
def clashes (t t' : Template) : Bool :=
  (t.isWhole && (t'.isForeignTo t || (t'.isWhole && t.differsFrom t'))) ||
    (t'.isWhole && t.isForeignTo t')

theorem not_fitsSomewhere_of_differsFrom (h : t.differsFrom t' = true)
    (ht : t.isWhole = true) (ht' : t'.isWhole = true)
    (hfits : t.fitsSomewhere body = true) : t'.fitsSomewhere body = false := by
  rw [Bool.eq_false_iff]
  intro hfits'
  rw [differsFrom, Bool.or_eq_true] at h
  rcases h with hlength | hslots
  · have hne : t.length ≠ t'.length := bne_iff_ne.mp hlength
    exact hne ((fitsAt_zero_of_isWhole ht hfits).2.symm.trans
      (fitsAt_zero_of_isWhole ht' hfits').2)
  · obtain ⟨⟨s, s'⟩, hmem, hdisjoint⟩ := List.any_eq_true.mp hslots
    obtain ⟨k, hk⟩ := List.mem_iff_getElem?.mp hmem
    rw [List.getElem?_zip_eq_some] at hk
    obtain ⟨i, hi, hs⟩ := exists_instruction_of_fitsAt
      (fitsAt_zero_of_isWhole ht hfits).1 hk.1
    obtain ⟨i', hi', hs'⟩ := exists_instruction_of_fitsAt
      (fitsAt_zero_of_isWhole ht' hfits').1 hk.2
    obtain rfl : i = i' := Option.some.inj (hi.symm.trans hi')
    simp [Slot.disjoint_iff.mp hdisjoint i.opcode hs] at hs'

theorem not_fitsSomewhere_of_isForeignTo (h : t.isForeignTo whole = true)
    (hwhole : whole.isWhole = true)
    (hfits : whole.fitsSomewhere body = true) :
    t.fitsSomewhere body = false := by
  rw [Bool.eq_false_iff]
  intro hfits'
  obtain ⟨p, -, hp⟩ := exists_fitsAt_of_fitsSomewhere hfits'
  obtain ⟨s, hs, hforeign⟩ := List.any_eq_true.mp h
  obtain ⟨k, hk⟩ := List.mem_iff_getElem?.mp hs
  obtain ⟨i, hi, haccepts⟩ := exists_instruction_of_fitsAt hp hk
  obtain ⟨s', hs', haccepts'⟩ := exists_slot_of_isWhole hwhole hfits hi
  have hdisjoint : s.disjoint s' = true :=
    List.all_eq_true.mp hforeign s' (List.mem_of_getElem? hs')
  simp [Slot.disjoint_iff.mp hdisjoint i.opcode haccepts] at haccepts'

/-- No body has both of two clashing shapes. -/
theorem not_fitsSomewhere_of_clashes (h : t.clashes t' = true)
    (hfits : t.fitsSomewhere body = true) : t'.fitsSomewhere body = false := by
  simp only [clashes, Bool.or_eq_true, Bool.and_eq_true] at h
  rcases h with ⟨ht, hforeign | ⟨ht', hdiffers⟩⟩ | ⟨ht', hforeign⟩
  · exact not_fitsSomewhere_of_isForeignTo hforeign ht hfits
  · exact not_fitsSomewhere_of_differsFrom hdiffers ht ht' hfits
  · rw [Bool.eq_false_iff]
    intro hfits'
    simp [not_fitsSomewhere_of_isForeignTo hforeign ht' hfits'] at hfits

end Template

end HandlerRecognition
