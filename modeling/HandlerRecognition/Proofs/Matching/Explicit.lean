import HandlerRecognition.Proofs.Matching.Fitting
import HandlerRecognition.Proofs.Matching.Inclusion
import Mathlib.Data.Finset.Card
import Mathlib.Data.List.Infix

/-!
# Shapes and verifiers in explicit terms

A template that lists opcodes fits where the body has these opcodes, as all that
is left of it or as what comes next. What a verifier asks of a site is said here
by the instructions of the body and the records of the store. A token in an
operand must be of the right table, and the store must know it.

A delegation holds if the called method has a body, the depth allows one more
helper method, and the demand is met in this body. The demand of a single
position is met if there is exactly one (`countP_range_eq_one_iff`).
-/

namespace HandlerRecognition

namespace Body

variable {body : Body}

@[simp] theorem length_opcodes (body : Body) :
    body.opcodes.length = body.length :=
  List.length_map _

theorem opcodes_drop (body : Body) (n : Nat) :
    opcodes (body.drop n) = body.opcodes.drop n :=
  List.map_drop

end Body

section Shapes

variable {opcodes : List Opcode} {body : Body} {t : Template} {start : Nat}

namespace Slot

/-- Slots accept opcodes one by one. -/
def AcceptEach (slots : List Slot) (opcodes : List Opcode) : Prop :=
  List.Forall₂ (fun slot o => slot.accepts o = true) slots opcodes

@[simp] theorem accepts_exact_iff {o o' : Opcode} :
    (exact o).accepts o' = true ↔ o = o' :=
  beq_iff_eq

/-- Slots that list opcodes accept these and no others. -/
theorem acceptEach_exact_iff {opcodes' : List Opcode} :
    AcceptEach (opcodes.map exact) opcodes' ↔ opcodes = opcodes' := by
  simp only [AcceptEach, List.forall₂_map_left_iff, accepts_exact_iff,
    List.forall₂_eq_eq_eq]

/-- Slots accept a run of instructions if they accept the opcodes one by one. -/
theorem all_accepts_iff {slots : List Slot}
    (hlength : slots.length ≤ body.length) :
    ((slots.zip body).all fun (slot, i) => slot.accepts i.opcode) = true ↔
      ∃ opcodes, opcodes <+: body.opcodes ∧ AcceptEach slots opcodes := by
  induction slots generalizing body with
  | nil =>
      simp only [List.zip_nil_left, List.all_nil, true_iff]
      exact ⟨[], List.nil_prefix, .nil⟩
  | cons slot slots ih =>
      cases body with
      | nil => simp at hlength
      | cons i is =>
          rw [List.length_cons, List.length_cons, Nat.add_le_add_iff_right]
            at hlength
          rw [List.zip_cons_cons, List.all_cons, Bool.and_eq_true, ih hlength]
          constructor
          · rintro ⟨hslot, opcodes, hbegins, hrest⟩
            exact ⟨i.opcode :: opcodes, List.cons_prefix_cons.mpr ⟨rfl, hbegins⟩,
              .cons hslot hrest⟩
          · rintro ⟨opcodes, hbegins, haccept⟩
            obtain ⟨o, rest, hslot, hrest, rfl⟩ :=
              List.forall₂_cons_left_iff.mp haccept
            obtain ⟨rfl, hbegins'⟩ := List.cons_prefix_cons.mp hbegins
            exact ⟨hslot, rest, hbegins', hrest⟩

end Slot

namespace Template

/-- A shape fits where the number of slots is allowed and the slots accept the
opcodes that come next. -/
theorem fitsAt_iff_acceptEach :
    t.fitsAt body start = true ↔
      start ≤ body.length ∧
        t.extent.allows t.length (body.length - start) = true ∧
          ∃ opcodes, opcodes <+: body.opcodes.drop start ∧
            Slot.AcceptEach t.slots opcodes := by
  simp only [fitsAt, Bool.and_eq_true, decide_eq_true_eq, and_assoc,
    ← Body.opcodes_drop]
  refine and_congr_right fun _ => and_congr_right fun hallows => ?_
  refine Slot.all_accepts_iff ?_
  rw [List.length_drop]
  exact Extent.le_of_allows hallows

/-- A template of a part of the body fits where its slots accept the opcodes that
come next. -/
theorem fitsAt_window_iff_acceptEach (hextent : t.extent = .window) :
    t.fitsAt body start = true ↔
      start ≤ body.length ∧ ∃ opcodes, opcodes <+: body.opcodes.drop start ∧
        Slot.AcceptEach t.slots opcodes := by
  rw [fitsAt_iff_acceptEach, hextent]
  refine and_congr_right fun _ => and_iff_right_of_imp ?_
  rintro ⟨opcodes, hbegins, haccept⟩
  have hlength : t.length = opcodes.length := haccept.length_eq
  simpa [Extent.allows, hlength] using hbegins.length_le

/-- A template that lists opcodes of a part of the body fits where they come
next. -/
theorem fitsAt_window_iff (hextent : t.extent = .window)
    (hslots : t.slots = opcodes.map .exact) :
    t.fitsAt body start = true ↔
      start ≤ body.length ∧ opcodes <+: body.opcodes.drop start := by
  rw [fitsAt_window_iff_acceptEach hextent, hslots]
  simp only [Slot.acceptEach_exact_iff, exists_eq_right']

/-- A template that lists the opcodes of a whole body fits where these are left
and no others. -/
theorem fitsAt_entire_iff (hextent : t.extent = .entire)
    (hslots : t.slots = opcodes.map .exact) :
    t.fitsAt body start = true ↔
      start ≤ body.length ∧ body.opcodes.drop start = opcodes := by
  rw [fitsAt_iff_acceptEach, hextent, length, hslots, List.length_map]
  simp only [Slot.acceptEach_exact_iff, exists_eq_right']
  refine and_congr_right fun _ => ?_
  constructor
  · rintro ⟨hallows, hbegins⟩
    have hremaining : body.length - start = opcodes.length :=
      beq_iff_eq.mp hallows
    refine (hbegins.eq_of_length ?_).symm
    rw [List.length_drop, Body.length_opcodes, hremaining]
  · rintro rfl
    simp [Extent.allows]

end Template

end Shapes

section Tokens

/-- The operand of the instruction at a position is a token. -/
def Body.HasToken (body : Body) (p : Nat) (t : Token) : Prop :=
  ∃ i, body[p]? = some i ∧ i.operand = .token t

variable {s : Site} {offset : Nat} {t : Token}

theorem Operand.token?_eq_some_iff {o : Operand} :
    o.token? = some t ↔ o = .token t := by
  cases o <;> simp [token?]

/-- The token in the operand at an offset, if it is of a kind. -/
theorem Site.bind_token?_eq_some_iff (kind : Token → Bool) :
    ((s.instruction? offset).bind fun i => i.token?.filter kind) = some t ↔
      s.body.HasToken (s.start + offset) t ∧ kind t = true := by
  simp only [Option.bind_eq_some_iff, Option.filter_eq_some_iff, instruction?,
    Body.HasToken, Instruction.token?, Operand.token?_eq_some_iff]
  constructor
  · rintro ⟨i, hi, htoken, hkind⟩
    exact ⟨⟨i, hi, htoken⟩, hkind⟩
  · rintro ⟨⟨i, hi, htoken⟩, hkind⟩
    exact ⟨i, hi, htoken, hkind⟩

namespace Site

theorem methodToken?_eq_some_iff :
    s.methodToken? offset = some t ↔
      s.body.HasToken (s.start + offset) t ∧ t.isMethod = true :=
  bind_token?_eq_some_iff Token.isMethod

theorem method?_eq_some_iff {m : MethodRecord} :
    s.method? offset = some m ↔
      ∃ t, s.body.HasToken (s.start + offset) t ∧ t.isMethod = true ∧
        s.env.store.method? t = some m := by
  simp only [method?, Option.bind_eq_some_iff, methodToken?_eq_some_iff,
    and_assoc]

theorem member?_eq_some_iff {m : MemberRecord} :
    s.member? offset = some m ↔
      ∃ t, s.body.HasToken (s.start + offset) t ∧ t.isMember = true ∧
        s.env.store.member? t = some m := by
  rw [member?, Option.bind_eq_some_iff]
  refine exists_congr fun t => ?_
  rw [← and_assoc]
  exact and_congr_left' (bind_token?_eq_some_iff Token.isMember)

theorem field?_eq_some_iff {f : FieldRecord} :
    s.field? offset = some f ↔
      ∃ t, s.body.HasToken (s.start + offset) t ∧ t.isField = true ∧
        s.env.store.field? t = some f := by
  rw [field?, Option.bind_eq_some_iff]
  refine exists_congr fun t => ?_
  rw [← and_assoc]
  exact and_congr_left' (bind_token?_eq_some_iff Token.isField)

end Site

end Tokens

section Delegations

theorem Environment.verifies_of_inspection {env : Environment} {t : Template}
    {body : Body} {start : Nat} {i : Inspection}
    (ht : t.verifier? = some (.inspection i)) :
    env.verifies t body start = i.holds ⟨env, body, start⟩ := by
  rw [verifies, Template.passesBy, ht]
  rfl

/-- The instruction at a position calls a method of this module that has a known
body. -/
def Store.Calls (s : Store) (body : Body) (p : Nat) (helper : Body) : Prop :=
  ∃ t, body.HasToken p t ∧ t.isMethod = true ∧ s.body? t = some helper

/-- Whether the positions of a helper at which a template is accepted are as a
delegation demands. -/
def Demand.IsMetBy (accepts : Nat → Prop) (helper : Body) : Demand → Prop
  | .atStart => accepts 0
  | .once => ∃! p, p < helper.length ∧ accepts p

variable {d : Delegation} {s : Site} {offset : Nat} {name : String}
  {u : Template} {helper : Body}

theorem Site.helper?_eq_some_iff :
    s.helper? offset name = some (u, helper) ↔
      s.env.catalog.find? name = some u ∧
        s.env.store.Calls s.body (s.start + offset) helper := by
  have hcalls : (s.methodToken? offset).bind s.env.store.body? = some helper ↔
      s.env.store.Calls s.body (s.start + offset) helper := by
    simp only [Option.bind_eq_some_iff, methodToken?_eq_some_iff, and_assoc,
      Store.Calls]
  rw [← hcalls, helper?, Option.bind_eq_some_iff]
  constructor
  · rintro ⟨u, hu, h⟩
    obtain ⟨helper, hhelper, heq⟩ := Option.map_eq_some_iff.mp h
    obtain ⟨rfl, rfl⟩ := Prod.mk.inj heq
    exact ⟨hu, hhelper⟩
  · rintro ⟨hu, hhelper⟩
    exact ⟨u, hu, Option.map_eq_some_iff.mpr ⟨helper, hhelper, rfl⟩⟩

theorem card_filter_range (accepts : Nat → Bool) (n : Nat) :
    ((Finset.range n).filter fun p => accepts p = true).card =
      (List.range n).countP accepts := by
  rw [List.countP_eq_length_filter]
  simp [Finset.card, Finset.filter, Multiset.range]

theorem countP_range_eq_one_iff {accepts : Nat → Bool} {n : Nat} :
    (List.range n).countP accepts = 1 ↔ ∃! p, p < n ∧ accepts p = true := by
  rw [← card_filter_range, Finset.card_eq_one_iff_existsUnique]
  simp only [Finset.mem_filter, Finset.mem_range]

namespace Delegation

theorem holdsBy_iff_isMetBy {deeper : Environment}
    (hhelper : s.helper? d.offset d.templateName = some (u, helper))
    (hdeeper : s.env.descend? = some deeper) :
    d.holdsBy s s.env.deeper? = true ↔
      d.demand.IsMetBy (fun p => deeper.accepts u helper p = true) helper := by
  cases hdemand : d.demand with
  | atStart =>
      rw [holdsBy_of_atStart hdemand, Site.delegatesTo_eq hhelper hdeeper]
      rfl
  | once =>
      rw [holdsBy_of_once hdemand, Site.occurrencesIn_eq hhelper hdeeper,
        Option.some.injEq, countP_range_eq_one_iff]
      rfl

/-- A delegation to a template that only looks up metadata holds if one more
helper method is allowed, there is one, and the demand is met in it. -/
theorem holdsBy_iff {i : Inspection}
    (hu : s.env.catalog.find? d.templateName = some u)
    (hi : u.verifier? = some (.inspection i)) :
    d.holdsBy s s.env.deeper? = true ↔
      s.env.depth < s.env.maxDepth ∧
        ∃ helper, s.env.store.Calls s.body (s.start + d.offset) helper ∧
          d.demand.IsMetBy (fun p => u.fitsAt helper p = true ∧
            i.holds ⟨s.env, helper, p⟩ = true) helper := by
  have haccepts {deeper : Environment} (hdeeper : s.env.descend? = some deeper)
      (helper : Body) (p : Nat) :
      deeper.accepts u helper p = true ↔
        u.fitsAt helper p = true ∧ i.holds ⟨s.env, helper, p⟩ = true := by
    have hstore := Environment.store_of_descend? hdeeper
    rw [Environment.accepts_eq, Bool.and_eq_true,
      Environment.verifies_of_inspection hi,
      i.holds_eq_of_store_eq hstore helper p]
  constructor
  · intro h
    obtain ⟨u', helper, deeper, -, hhelper, hdeeper, -⟩ :=
      exists_accepts_of_holdsBy h
    obtain ⟨hu', hcalls⟩ := Site.helper?_eq_some_iff.mp hhelper
    obtain rfl : u = u' := Option.some.inj (hu.symm.trans hu')
    rw [holdsBy_iff_isMetBy hhelper hdeeper] at h
    simp only [haccepts hdeeper] at h
    exact ⟨(Environment.descend?_eq_some_iff.mp hdeeper).1, helper, hcalls, h⟩
  · rintro ⟨hdepth, helper, hcalls, hmet⟩
    have hdeeper := Environment.descend?_eq_some_iff.mpr ⟨hdepth, rfl⟩
    have hhelper := Site.helper?_eq_some_iff.mpr ⟨hu, hcalls⟩
    rw [holdsBy_iff_isMetBy hhelper hdeeper]
    simpa only [haccepts hdeeper] using hmet

end Delegation

end Delegations

end HandlerRecognition
