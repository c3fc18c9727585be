import HandlerRecognition.Matching.Search
import HandlerRecognition.Proofs.Matching.Fitting
import Mathlib.Data.List.Perm.Subperm

/-!
# Where slots may stand

The slots of a template cover the positions from `start` up to and not including
`start + t.length`. `Extent.Stops` is what the extent asks of this end, and a shape
fits where the end is right and every slot accepts the opcode that it stands at
(`Template.fitsAt_iff_stops`).

`Template.compareAt` is the comparison with every access to the body checked. It
fetches the instruction for one slot after the other, and a fetch past the end of
the body is a fault. `Template.compareAt_eq` says that there is no fault at any
position and that no slot goes without an instruction.

The end of the slots bounds the positions of a template in a body: one if the
template must cover the rest of the body, and otherwise as many as leave room for
the slots. The bounds hold for every decision on verifiers, so the verifier is
left open here as it is in `Matcher.locate?`.
-/

namespace HandlerRecognition

namespace Extent

/-- What an extent asks of the position at which the slots stop. -/
def Stops (stop length : Nat) : Extent → Prop
  | .entire => stop = length
  | .window => stop ≤ length

theorem Stops.le {e : Extent} {stop length : Nat} (h : e.Stops stop length) :
    stop ≤ length := by
  cases e with
  | entire => exact Nat.le_of_eq h
  | window => exact h

/-- The number of remaining instructions is right if the slots stop at the right
position. The guard keeps the difference from being cut off at zero. -/
theorem stops_add_iff {e : Extent} {start slots length : Nat} :
    e.Stops (start + slots) length ↔
      start ≤ length ∧ e.allows slots (length - start) = true := by
  cases e with
  | entire =>
      simp only [Stops, allows, beq_iff_eq]
      omega
  | window =>
      simp only [Stops, allows, decide_eq_true_eq]
      omega

end Extent

/-- Compares slots with the instructions from a position on, one after the other,
up to the first opcode that is not accepted. -/
def Slot.compareFrom (body : Body) :
    Nat → List Slot → Except Body.OutOfRange Bool
  | _, [] => .ok true
  | p, slot :: slots => do
    let i ← body.fetch p
    if slot.accepts i.opcode then compareFrom body (p + 1) slots else .ok false

/-- Slots for which the body has room are compared without a fault. -/
theorem Slot.compareFrom_eq {body : Body} {slots : List Slot} {p : Nat}
    (hroom : p + slots.length ≤ body.length) :
    compareFrom body p slots =
      .ok ((slots.zip (body.drop p)).all fun (slot, i) =>
        slot.accepts i.opcode) := by
  -- One fetch uses up one slot and one instruction of the room.
  induction slots generalizing p with
  | nil => rfl
  | cons slot slots ih =>
      rw [List.length_cons] at hroom
      have hp : p < body.length := by omega
      have hfetch : body.fetch p = .ok body[p] :=
        Body.fetch_eq_ok_iff.mpr (List.getElem?_eq_getElem hp)
      have hrest := ih (p := p + 1) (by omega)
      rw [compareFrom, hfetch, List.drop_eq_getElem_cons hp,
        List.zip_cons_cons, List.all_cons]
      cases haccepts : slot.accepts body[p].opcode with
      | false => simp [bind, Except.bind, haccepts]
      | true => simp [bind, Except.bind, haccepts, hrest]

namespace Template

variable {t : Template} {body : Body} {start : Nat}

/-- The template with another extent. -/
def withExtent (t : Template) (e : Extent) : Template :=
  { t with extent := e }

/-- Whether the shape of a template fits a body at a position, with every access
to the body checked. -/
def compareAt (t : Template) (body : Body) (start : Nat) :
    Except Body.OutOfRange Bool :=
  if start ≤ body.length &&
      t.extent.allows t.length (body.length - start) then
    Slot.compareFrom body start t.slots
  else .ok false

/-- No comparison goes past the end of the body. -/
theorem compareAt_eq (t : Template) (body : Body) (start : Nat) :
    t.compareAt body start = .ok (t.fitsAt body start) := by
  rw [compareAt, fitsAt]
  cases hguard : decide (start ≤ body.length) &&
      t.extent.allows t.length (body.length - start) with
  | false => rfl
  | true =>
      rw [Bool.and_eq_true, decide_eq_true_eq] at hguard
      have hroom : start + t.length ≤ body.length :=
        (Extent.stops_add_iff.mpr hguard).le
      rw [if_pos rfl, Slot.compareFrom_eq hroom, Bool.true_and]

/-- A shape fits where its slots stop at the right position and each accepts the
opcode that it stands at. -/
theorem fitsAt_iff_stops :
    t.fitsAt body start = true ↔
      t.extent.Stops (start + t.length) body.length ∧
        ∀ k < t.length, ∃ slot i, t.slots[k]? = some slot ∧
          body[start + k]? = some i ∧ slot.accepts i.opcode = true := by
  constructor
  · intro h
    obtain ⟨hstart, hallows, -⟩ := fitsAt_iff.mp h
    refine ⟨Extent.stops_add_iff.mpr ⟨hstart, hallows⟩, fun k hk => ?_⟩
    have hslot : t.slots[k]? = some t.slots[k] := List.getElem?_eq_getElem hk
    obtain ⟨i, hi, haccepts⟩ := exists_instruction_of_fitsAt h hslot
    exact ⟨_, i, hslot, hi, haccepts⟩
  · rintro ⟨hstops, hslots⟩
    obtain ⟨hstart, hallows⟩ := Extent.stops_add_iff.mp hstops
    refine fitsAt_iff.mpr ⟨hstart, hallows, fun k slot i hslot hi => ?_⟩
    have hk : k < t.length := (List.getElem?_eq_some_iff.mp hslot).1
    obtain ⟨slot', i', hslot', hi', haccepts⟩ := hslots k hk
    obtain rfl := Option.some.inj (hslot.symm.trans hslot')
    obtain rfl := Option.some.inj (hi.symm.trans hi')
    exact haccepts

/-- To cover the rest of a body is to begin it and to stop where it stops. -/
theorem fitsAt_withExtent_entire_iff :
    (t.withExtent .entire).fitsAt body start = true ↔
      (t.withExtent .window).fitsAt body start = true ∧
        start + t.length = body.length := by
  rw [fitsAt_iff_stops, fitsAt_iff_stops]
  constructor
  · rintro ⟨hstops, hslots⟩
    exact ⟨⟨Nat.le_of_eq hstops, hslots⟩, hstops⟩
  · rintro ⟨⟨-, hslots⟩, hstops⟩
    exact ⟨hstops, hslots⟩

end Template

namespace Matcher

variable {verifies : Matcher} {t : Template} {body : Body} {p : Nat}

/-- The decision of verifiers together with that of shapes. -/
def withShape (verifies : Matcher) : Matcher :=
  fun t body p => t.fitsAt body p && verifies t body p

/-- All positions at which the shape of a template fits and its verifier holds,
under a decision on verifiers. -/
def positions (verifies : Matcher) (t : Template) (body : Body) : List Nat :=
  (List.range body.length).filter (verifies.withShape t body)

theorem fitsAt_of_withShape (h : verifies.withShape t body p = true) :
    t.fitsAt body p = true :=
  (Bool.and_eq_true_iff.mp h).1

theorem mem_positions_iff :
    p ∈ verifies.positions t body ↔
      p < body.length ∧ verifies.withShape t body p = true := by
  rw [positions, List.mem_filter, List.mem_range]

theorem stops_of_mem_positions (h : p ∈ verifies.positions t body) :
    t.extent.Stops (p + t.length) body.length :=
  (Template.fitsAt_iff_stops.mp
    (fitsAt_of_withShape (mem_positions_iff.mp h).2)).1

/-- No position is listed twice. -/
theorem length_positions_le {l : List Nat}
    (h : verifies.positions t body ⊆ l) :
    (verifies.positions t body).length ≤ l.length := by
  have hnodup : (verifies.positions t body).Nodup := List.nodup_range.filter _
  exact (hnodup.subperm h).length_le

end Matcher

namespace Environment

theorem accepts_eq_withShape (env : Environment) :
    env.accepts = Matcher.withShape env.verifies := by
  funext t body start
  exact env.accepts_eq t body start

theorem positions_eq (env : Environment) :
    env.positions = Matcher.positions env.verifies := by
  funext t body
  rw [positions, Matcher.positions, accepts_eq_withShape]

theorem locate?_eq (env : Environment) :
    env.locate? = Matcher.locate? env.verifies := by
  funext t body
  rw [locate?, accepts_eq_withShape]
  rfl

end Environment

/-- What the lengths of a template and a body say of a list of positions. -/
structure Template.Limits (t : Template) (body : Body) (positions : List Nat) :
    Prop where
  /-- A template that covers the rest of the body has a single place. -/
  entire (h : t.extent = .entire) :
    positions.length ≤ 1 ∧ ∀ p ∈ positions, p + t.length = body.length
  window (h : t.extent = .window) :
    positions.length ≤ body.length - t.length + 1
  /-- There is no place in a body that is too short. -/
  short (hlt : body.length < t.length) : positions = []

theorem Matcher.limits_positions (verifies : Matcher) (t : Template)
    (body : Body) : t.Limits body (verifies.positions t body) where
  entire h := by
    have hstop (p : Nat) (hp : p ∈ verifies.positions t body) :
        p + t.length = body.length := by
      have hstops := stops_of_mem_positions hp
      rwa [h] at hstops
    have hsubset : verifies.positions t body ⊆ [body.length - t.length] := by
      intro p hp
      rw [List.mem_singleton, ← hstop p hp, Nat.add_sub_cancel]
    exact ⟨length_positions_le hsubset, hstop⟩
  window _ := by
    have hsubset : verifies.positions t body ⊆
        List.range (body.length - t.length + 1) := by
      intro p hp
      have hroom := (stops_of_mem_positions hp).le
      rw [List.mem_range]
      omega
    simpa using length_positions_le hsubset
  short hlt := by
    rw [List.eq_nil_iff_forall_not_mem]
    intro p hp
    have hroom := (stops_of_mem_positions hp).le
    omega

namespace Template

/-- Fitting at a position, in terms of positions and lengths alone. Comparing slot
by slot with checked accesses meets no fault at any position and has the same
answer: the slots stop where the extent asks for it, and each accepts the opcode
that it stands at. So a template that covers the rest of a body fits where it would
as a part of the body and where its slots stop at the end, which leaves a single
position for it. As a part of the body it has as many positions as there is room
for its slots, whatever verifiers decide. -/
theorem fitsAt_places_slots (t : Template) (body : Body) :
    (∀ start, t.compareAt body start = .ok (t.fitsAt body start)) ∧
    (∀ start, t.fitsAt body start = true ↔
      t.extent.Stops (start + t.length) body.length ∧
        ∀ k < t.length, ∃ slot i, t.slots[k]? = some slot ∧
          body[start + k]? = some i ∧ slot.accepts i.opcode = true) ∧
    (∀ start, (t.withExtent .entire).fitsAt body start = true ↔
      (t.withExtent .window).fitsAt body start = true ∧
        start + t.length = body.length) ∧
    (∀ (env : Environment) (start : Nat),
      env.accepts (t.withExtent .entire) body start = true ↔
        env.accepts (t.withExtent .window) body start = true ∧
          start + t.length = body.length) ∧
    (∀ env : Environment, t.Limits body (env.positions t body)) ∧
    ∀ verifies : Matcher, t.Limits body (verifies.positions t body) := by
  refine ⟨t.compareAt_eq body, fun _ => fitsAt_iff_stops,
    fun _ => fitsAt_withExtent_entire_iff, fun env start => ?_, fun env => ?_,
    fun verifies => verifies.limits_positions t body⟩
  · -- A verifier does not look at the extent.
    have hverifies : env.verifies (t.withExtent .entire) body start =
        env.verifies (t.withExtent .window) body start := rfl
    rw [Environment.accepts_eq, Environment.accepts_eq, Bool.and_eq_true,
      Bool.and_eq_true, fitsAt_withExtent_entire_iff, hverifies, and_right_comm]
  · rw [Environment.positions_eq]
    exact Matcher.limits_positions _ t body

end Template

end HandlerRecognition
