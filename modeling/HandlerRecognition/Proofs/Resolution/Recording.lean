import HandlerRecognition.Resolution.Outcome
import Mathlib.Data.List.Dedup

/-!
# Recording outcomes

A resolution is built by recording outcomes one after the other, each in the
table of its kind. Recording does not look into the other two tables, so a
second outcome of another kind under one identifier would leave it in two of
them. While no outcome is recorded twice under an identifier, the tables stay
`Resolution.Separate`: each of them holds the outcomes of its kind and no
others.
-/

namespace HandlerRecognition

namespace Resolution

/-- Each table holds exactly the outcomes of its kind. -/
structure Separate (r : Resolution) : Prop where
  bound (id : HandlerId) :
    r.boundTable.find? id = (r.outcome? id).bind Outcome.binding?
  unresolved (id : HandlerId) :
    r.unresolvedTable.find? id = (r.outcome? id).bind Outcome.reason?
  ambiguous (id : HandlerId) :
    r.ambiguousTable.find? id = (r.outcome? id).bind Outcome.opcodes?

theorem separate_empty : empty.Separate :=
  ⟨fun _ => rfl, fun _ => rfl, fun _ => rfl⟩

theorem outcome?_eq_none_iff {r : Resolution} {id : HandlerId} :
    r.outcome? id = none ↔
      r.boundTable.find? id = none ∧ r.unresolvedTable.find? id = none ∧
        r.ambiguousTable.find? id = none := by
  rw [outcome?]
  cases r.boundTable.find? id with
  | some b => simp
  | none =>
      cases r.unresolvedTable.find? id with
      | some reason => simp
      | none => simp

theorem outcome?_record {r : Resolution} {id : HandlerId}
    (h : r.outcome? id = none) (outcome : Outcome) (other : HandlerId) :
    (r.record id outcome).outcome? other =
      if other = id then some outcome else r.outcome? other := by
  obtain ⟨hbound, hunresolved, hambiguous⟩ := outcome?_eq_none_iff.mp h
  by_cases hid : other = id
  · subst hid
    cases outcome <;> simp [record, outcome?, hbound, hunresolved]
  · cases outcome <;> simp [record, outcome?, hid]

theorem separate_record {r : Resolution} (hr : r.Separate) {id : HandlerId}
    (h : r.outcome? id = none) (outcome : Outcome) :
    (r.record id outcome).Separate := by
  obtain ⟨hbound, hunresolved, hambiguous⟩ := outcome?_eq_none_iff.mp h
  refine ⟨fun other => ?_, fun other => ?_, fun other => ?_⟩ <;>
    rw [outcome?_record h] <;> by_cases hid : other = id
  all_goals
    cases outcome <;>
      simp [record, hid, hbound, hunresolved, hambiguous, hr.bound,
        hr.unresolved, hr.ambiguous, Outcome.binding?, Outcome.reason?,
        Outcome.opcodes?]

/-- Outcomes under different identifiers, none of which has an outcome yet, are
all found, and the tables stay separate. -/
theorem recordAll_spec {r : Resolution} (hr : r.Separate)
    {outcomes : List (HandlerId × Outcome)}
    (hnodup : (outcomes.map Prod.fst).Nodup)
    (hnew : ∀ e ∈ outcomes, r.outcome? e.1 = none) :
    (r.recordAll outcomes).Separate ∧
      ∀ (id : HandlerId) (outcome : Outcome),
        (r.recordAll outcomes).outcome? id = some outcome ↔
          (id, outcome) ∈ outcomes ∨ r.outcome? id = some outcome := by
  induction outcomes generalizing r with
  | nil => exact ⟨hr, by simp [recordAll]⟩
  | cons e rest ih =>
      obtain ⟨key, value⟩ := e
      rw [List.map_cons, List.nodup_cons] at hnodup
      obtain ⟨hfresh, hrest⟩ := hnodup
      have hkey : r.outcome? key = none := hnew _ List.mem_cons_self
      -- The key does not recur, so the rest is as new to the longer resolution.
      have hlater : ∀ e ∈ rest, (r.record key value).outcome? e.1 = none := by
        intro e he
        have hne : e.1 ≠ key := by
          intro heq
          exact hfresh (List.mem_map.mpr ⟨e, he, heq⟩)
        rw [outcome?_record hkey, if_neg hne]
        exact hnew e (List.mem_cons_of_mem _ he)
      obtain ⟨hseparate, hfound⟩ := ih (separate_record hr hkey value) hrest
        hlater
      refine ⟨hseparate, fun id outcome => ?_⟩
      have hstep : r.recordAll ((key, value) :: rest) =
          (r.record key value).recordAll rest := rfl
      rw [hstep, hfound, outcome?_record hkey, List.mem_cons]
      by_cases hid : id = key
      · subst hid
        simp [hkey, eq_comm, or_comm]
      · simp [hid]

section Members

variable {r : Resolution} {id : HandlerId}

/-- A table of outcomes of one kind lists the outcomes that `make` makes of its
values. -/
theorem mem_entries_iff {α : Type} {t : Table α} {kind? : Outcome → Option α}
    {make : α → Outcome}
    (ht : ∀ id, t.find? id = (r.outcome? id).bind kind?)
    (hmake : ∀ outcome value, kind? outcome = some value ↔ outcome = make value)
    {value : α} :
    (id, value) ∈ t.entries ↔ r.outcome? id = some (make value) := by
  rw [Table.mem_entries_iff, ht, Option.bind_eq_some_iff]
  constructor
  · intro h
    obtain ⟨outcome, houtcome, hvalue⟩ := h
    rw [houtcome, (hmake outcome value).mp hvalue]
  · intro h
    exact ⟨make value, h, (hmake _ value).mpr rfl⟩

theorem Separate.mem_bindings_iff (hr : r.Separate) {b : Binding} :
    (id, b) ∈ r.bindings ↔ r.outcome? id = some (.bound b) := by
  refine mem_entries_iff hr.bound fun outcome b => ?_
  cases outcome <;> simp [Outcome.binding?]

theorem Separate.mem_unresolved_iff (hr : r.Separate) {reason : Reason} :
    (id, reason) ∈ r.unresolved ↔
      r.outcome? id = some (.unresolved reason) := by
  refine mem_entries_iff hr.unresolved fun outcome reason => ?_
  cases outcome <;> simp [Outcome.reason?]

theorem Separate.mem_ambiguous_iff (hr : r.Separate) {opcodes : List Opcode} :
    (id, opcodes) ∈ r.ambiguous ↔
      r.outcome? id = some (.ambiguous opcodes) := by
  refine mem_entries_iff hr.ambiguous fun outcome opcodes => ?_
  cases outcome <;> simp [Outcome.opcodes?]

end Members

def keys (r : Resolution) : List HandlerId :=
  r.boundTable.keys ++ r.unresolvedTable.keys ++ r.ambiguousTable.keys

theorem length_keys (r : Resolution) : r.keys.length = r.size := by
  simp [keys, size, Nat.add_assoc]

theorem mem_keys_iff {r : Resolution} {id : HandlerId} :
    id ∈ r.keys ↔ r.outcome? id ≠ none := by
  rw [Ne, outcome?_eq_none_iff]
  simp only [keys, List.mem_append, Table.mem_keys_iff, Option.isSome_iff_ne_none]
  tauto

/-- Tables of different kinds of outcomes have no identifier in common. -/
theorem disjoint_keys {α β : Type} {r : Resolution} {t : Table α}
    {u : Table β} {f : Outcome → Option α} {g : Outcome → Option β}
    (ht : ∀ id, t.find? id = (r.outcome? id).bind f)
    (hu : ∀ id, u.find? id = (r.outcome? id).bind g)
    (hfg : ∀ outcome, f outcome = none ∨ g outcome = none) :
    t.keys.Disjoint u.keys := by
  intro id hid hid'
  rw [Table.mem_keys_iff, ht] at hid
  rw [Table.mem_keys_iff, hu] at hid'
  cases ho : r.outcome? id with
  | none => simp [ho] at hid
  | some outcome =>
      rw [ho, Option.bind_some] at hid hid'
      rcases hfg outcome with h | h
      · simp [h] at hid
      · simp [h] at hid'

theorem Separate.disjoint {r : Resolution} (hr : r.Separate) :
    r.boundTable.keys.Disjoint r.unresolvedTable.keys ∧
      r.boundTable.keys.Disjoint r.ambiguousTable.keys ∧
        r.unresolvedTable.keys.Disjoint r.ambiguousTable.keys := by
  refine ⟨disjoint_keys hr.bound hr.unresolved fun outcome => ?_,
    disjoint_keys hr.bound hr.ambiguous fun outcome => ?_,
    disjoint_keys hr.unresolved hr.ambiguous fun outcome => ?_⟩
  · cases outcome <;> simp [Outcome.binding?, Outcome.reason?]
  · cases outcome <;> simp [Outcome.binding?, Outcome.opcodes?]
  · cases outcome <;> simp [Outcome.reason?, Outcome.opcodes?]

theorem Separate.nodup_keys {r : Resolution} (hr : r.Separate) :
    r.keys.Nodup := by
  obtain ⟨hbu, hba, hua⟩ := hr.disjoint
  refine List.nodup_append'.mpr ⟨?_, r.ambiguousTable.nodup_keys, ?_⟩
  · exact List.nodup_append'.mpr ⟨r.boundTable.nodup_keys,
      r.unresolvedTable.nodup_keys, hbu⟩
  · exact List.disjoint_append_left.mpr ⟨hba, hua⟩

theorem Separate.size_eq {r : Resolution} (hr : r.Separate)
    {ids : List HandlerId} (h : ∀ id, id ∈ ids ↔ r.outcome? id ≠ none) :
    r.size = ids.dedup.length := by
  rw [← length_keys]
  refine ((List.perm_ext_iff_of_nodup hr.nodup_keys ids.nodup_dedup).mpr
    fun id => ?_).length_eq
  rw [mem_keys_iff, List.mem_dedup, h]

end Resolution

end HandlerRecognition
