import HandlerRecognition.Proofs.Matching.Descent
import HandlerRecognition.Proofs.Matching.Locality
import HandlerRecognition.Proofs.Matching.Placement
import Mathlib.Logic.Relation

/-!
# Slots and offsets

A shape is compared with the instructions from a position on, one for each slot, and
a verifier reads instructions at offsets from the same position. The two are reached
in different ways. `Question.exists_pair_of_fits` says that slot `n` and offset `n`
are nevertheless the same instruction wherever the shape fits, and `Body.ahead?_eq`
says that this is not disturbed by machine words, whose sum may overflow.

So a verifier that reads within the slots of its template finds every instruction
that it reads, and what comes behind the body makes no difference to it
(`Question.ReadsSlots`). The built-in verifiers are of this kind. Where one of them
delegates, it is a built-in template again that is tried in the helper.
-/

namespace HandlerRecognition

namespace Body

/-- The sum of two machine words, unless it overflows. An overflow shows in a sum
that is smaller than its parts. -/
def sum? (a b : UInt64) : Option UInt64 :=
  if a + b < a then none else some (a + b)

theorem add_lt_iff_overflow {a b : UInt64} :
    a + b < a ↔ UInt64.size ≤ a.toNat + b.toNat := by
  have ha := a.toNat_lt
  have hb := b.toNat_lt
  rw [UInt64.lt_iff_toNat_lt, UInt64.toNat_add, UInt64.size]
  omega

theorem sum?_of_lt {a b : UInt64} (h : a.toNat + b.toNat < UInt64.size) :
    ∃ c, sum? a b = some c ∧ c.toNat = a.toNat + b.toNat := by
  have hsum : ¬ a + b < a := fun hlt =>
    absurd (add_lt_iff_overflow.mp hlt) (Nat.not_le.mpr h)
  refine ⟨a + b, if_neg hsum, ?_⟩
  rw [UInt64.toNat_add, Nat.mod_eq_of_lt h]

theorem sum?_of_le {a b : UInt64} (h : UInt64.size ≤ a.toNat + b.toNat) :
    sum? a b = none :=
  if_pos (add_lt_iff_overflow.mpr h)

/-- The instruction at an offset from a start, both of them machine words. -/
def ahead? (body : Body) (start offset : UInt64) : Option Instruction :=
  (sum? start offset).bind fun index => body[index.toNat]?

/-- An overflow is not seen, because no body is so long. -/
theorem ahead?_eq {body : Body} (hbody : body.length ≤ UInt64.size)
    (start offset : UInt64) :
    body.ahead? start offset = body[start.toNat + offset.toNat]? := by
  rw [ahead?]
  by_cases hsum : start.toNat + offset.toNat < UInt64.size
  · obtain ⟨index, hindex, hvalue⟩ := sum?_of_lt hsum
    rw [hindex, Option.bind_some, hvalue]
  · have hover : UInt64.size ≤ start.toNat + offset.toNat := Nat.not_lt.mp hsum
    rw [sum?_of_le hover, Option.bind_none, eq_comm, List.getElem?_eq_none_iff]
    exact hbody.trans hover

end Body

namespace Question

variable {q r : Question}

/-- The shape of the template fits at the site. -/
def Fits (q : Question) : Prop :=
  q.template.fitsAt q.site.body q.site.start = true

/-- The slots, each with the instruction that it is compared with. -/
def pairs (q : Question) : List (Slot × Instruction) :=
  q.template.slots.zip (q.site.body.drop q.site.start)

/-- A shape that fits is compared, at each slot, with the instruction at the same
offset. -/
theorem exists_pair_of_fits (h : q.Fits) {n : Nat} (hn : n < q.template.length) :
    ∃ slot i, q.pairs[n]? = some (slot, i) ∧
      q.template.slots[n]? = some slot ∧ q.site.instruction? n = some i ∧
        slot.accepts i.opcode = true := by
  obtain ⟨slot, i, hslot, hi, haccepts⟩ := (Template.fitsAt_iff_stops.mp h).2 n hn
  refine ⟨slot, i, ?_, hslot, hi, haccepts⟩
  rw [pairs, List.getElem?_zip_eq_some, List.getElem?_drop]
  exact ⟨hslot, hi⟩

/-- The verifier reads instructions that slots have accepted, and no others. -/
structure ReadsSlots (q : Question) : Prop where
  /-- What is read is there. -/
  present : ∀ o ∈ q.template.offsets, ∃ slot i, q.pairs[o]? = some (slot, i) ∧
    q.site.instruction? o = some i ∧ slot.accepts i.opcode = true
  /-- Sites with the same instructions at these offsets are alike to the verifier. -/
  congr {s : Site} (henv : s.env = q.site.env)
    (hinstruction : ∀ o ∈ q.template.offsets,
      s.instruction? o = q.site.instruction? o) (deeper? : Option Matcher) :
    q.template.passesBy s deeper? = q.template.passesBy q.site deeper?
  /-- A longer body would have led to the same decision. -/
  append (after : Body) :
    q.site.env.verifies q.template (q.site.body ++ after) q.site.start =
      q.site.env.verifies q.template q.site.body q.site.start

theorem readsSlots_of_readsWithin (hreads : q.template.ReadsWithin)
    (h : q.Fits) : q.ReadsSlots where
  present o ho := by
    obtain ⟨slot, i, hpair, -, hi, haccepts⟩ := exists_pair_of_fits h (hreads o ho)
    exact ⟨slot, i, hpair, hi, haccepts⟩
  congr henv hinstruction _ := Template.passesBy_congr henv hinstruction
  append after := by
    refine Template.passesBy_congr rfl fun o ho => ?_
    obtain ⟨-, i, -, -, hi, -⟩ := exists_pair_of_fits h (hreads o ho)
    have hlt : q.site.start + o < q.site.body.length :=
      (List.getElem?_eq_some_iff.mp hi).1
    exact List.getElem?_append_left hlt

theorem Asks.catalog_eq (h : q.Asks r) :
    r.site.env.catalog = q.site.env.catalog :=
  Environment.catalog_of_descend? h.descend?

end Question

namespace Builtin

variable {q r : Question}

/-- What a helper is tried for is a built-in template. -/
theorem mem_of_asks (hc : templates ⊆ q.site.env.catalog.templates)
    (h : q.Asks r) : r.template ∈ templates := by
  cases h with
  | @helper d u helper deeper p hd hhelper hdeeper hp =>
      obtain ⟨t, ht, hname⟩ : ∃ t ∈ templates, t.name = d.templateName := by
        cases d <;> decide
      have hfind := Catalog.find?_eq_some_iff.mpr ⟨hc ht, hname⟩
      have hu := Site.find?_of_helper? hhelper
      obtain rfl : t = u := Option.some.inj (hfind.symm.trans hu)
      exact ht

theorem mem_of_reflTransGen_asks (hc : templates ⊆ q.site.env.catalog.templates)
    (hq : q.template ∈ templates) (h : Relation.ReflTransGen Question.Asks q r) :
    r.template ∈ templates := by
  have hboth : r.template ∈ templates ∧
      r.site.env.catalog = q.site.env.catalog := by
    induction h with
    | refl => exact ⟨hq, rfl⟩
    | tail _ hasks ih =>
        have hcatalog := hasks.catalog_eq.trans ih.2
        refine ⟨mem_of_asks ?_ hasks, hcatalog⟩
        rw [ih.2]
        exact hc
  exact hboth.1

end Builtin

namespace Question

/-- Slot `n` and offset `n` are the same instruction. The instruction at an offset
is that at the sum of start and offset, if this is inside the body, and machine words
that overflow are no exception. Where a shape fits, there is an instruction at the
offset of each slot, it is the one that the slot was compared with, and the slot
accepts it. So a built-in verifier finds all that it reads where the shape of its
template fits, in a handler or in a helper at any depth, and it never refuses because
the body is too short. -/
theorem instruction?_aligned :
    (∀ (env : Environment) (body : Body) (start offset : UInt64),
      body.length ≤ UInt64.size → body.ahead? start offset =
        Site.instruction? ⟨env, body, start.toNat⟩ offset.toNat) ∧
    (∀ (s : Site) (offset : Nat), s.instruction? offset =
      if h : s.start + offset < s.body.length then
        some s.body[s.start + offset] else none) ∧
    (∀ q : Question, q.Fits → ∀ n < q.template.length,
      ∃ slot i, q.pairs[n]? = some (slot, i) ∧
        q.template.slots[n]? = some slot ∧ q.site.instruction? n = some i ∧
          slot.accepts i.opcode = true) ∧
    (∀ q : Question, q.template ∈ Builtin.templates → q.Fits → q.ReadsSlots) ∧
    ∀ q r : Question, Builtin.templates ⊆ q.site.env.catalog.templates →
      q.template ∈ Builtin.templates → Relation.ReflTransGen Asks q r →
        r.template ∈ Builtin.templates ∧ (r.Fits → r.ReadsSlots) := by
  have hbuiltin (q : Question) (hq : q.template ∈ Builtin.templates)
      (h : q.Fits) : q.ReadsSlots :=
    readsSlots_of_readsWithin (Builtin.readsWithin q.template hq) h
  refine ⟨fun env body start offset hbody => Body.ahead?_eq hbody start offset,
    fun s offset => ?_, fun q h n hn => exists_pair_of_fits h hn, hbuiltin,
    fun q r hc hq hasks => ?_⟩
  · split
    case isTrue h => exact List.getElem?_eq_getElem h
    case isFalse h => exact List.getElem?_eq_none (Nat.not_lt.mp h)
  · have hr := Builtin.mem_of_reflTransGen_asks hc hq hasks
    exact ⟨hr, hbuiltin r hr⟩

/-- A handler that takes the top off the stack through a helper. The access in the
helper is behind its first instruction and ends with the helper. The largest word as
an offset leads nowhere, although it wraps to an instruction. -/
theorem instruction?_aligned_at_end :
    let accessor : Instruction := ⟨3, .callvirt, .token (.ofParts Token.memberTable 1)⟩
    let helper : Body :=
      [⟨0, .nop, .none⟩, ⟨1, .ldarg0, .none⟩, ⟨2, .ldfld, .none⟩, accessor]
    let callee : Token := .ofParts Token.methodTable 1
    let body : Body := [⟨0, .ldarg0, .none⟩, ⟨1, .callvirt, .token callee⟩,
      ⟨2, .pop, .none⟩, ⟨3, .ret, .none⟩]
    let s : Store :=
      ⟨.ofList [.method ⟨callee, "", none, ⟨none, []⟩, some helper⟩], by decide⟩
    let env : Environment := .top Builtin.catalog s
    let q : Question := ⟨Builtin.pop, ⟨env, body, 0⟩⟩
    let r : Question := ⟨Builtin.popStack, ⟨env.deeperBy 1, helper, 1⟩⟩
    let largest : UInt64 := .ofNat (UInt64.size - 1)
    q.template ∈ Builtin.templates ∧ q.Asks r ∧ r.Fits ∧ r.ReadsSlots ∧
      (∃ slot i, r.pairs[2]? = some (slot, i) ∧
        r.template.slots[2]? = some slot ∧ r.site.instruction? 2 = some i ∧
          slot.accepts i.opcode = true) ∧
      r.site.instruction? 2 = some accessor ∧ r.site.instruction? 3 = none ∧
      helper.length ≤ UInt64.size ∧ 1 + largest = 0 ∧
      helper.ahead? 1 largest =
        Site.instruction? ⟨env, helper, UInt64.toNat 1⟩ largest.toNat ∧
      helper.ahead? 1 largest = none := by
  intro accessor helper callee body s env q r largest
  have hq : q.template ∈ Builtin.templates := by decide
  have hasks : q.Asks r := .helper rfl (by decide) rfl (by decide)
  have hfits : r.Fits := show r.template.fitsAt _ _ = true by decide
  have hlength : helper.length ≤ UInt64.size := by decide
  obtain ⟨hahead, hinstruction, hpairs, -, hreads⟩ := instruction?_aligned
  exact ⟨hq, hasks, hfits,
    (hreads q r (List.Subset.refl _) hq (.single hasks)).2 hfits,
    hpairs r hfits 2 (by decide), hinstruction r.site 2, hinstruction r.site 3,
    hlength, by decide, hahead env helper 1 largest hlength, by decide⟩

end Question

end HandlerRecognition
