import HandlerRecognition.Matching.Inspection
import Mathlib.Data.List.TakeWhile

/-!
# Reading full names

The full name of a member is one text for its return type, its parent, its name
and its parameter types. All of these are free texts, so a full name can be that
of several members. It is split in one way only at a separator whose characters
occur nowhere else in it (`Text.append_separator_inj`).

The accessor of field handles has such a full name. Another member has the same
full name only if its only parameter type has no name
(`MemberRecord.fullName_eq_iff`).
-/

namespace HandlerRecognition

/-- A list is split in one way at a separator whose members occur nowhere else
in it. -/
theorem append_separator_inj {α : Type} [DecidableEq α]
    {s l r l' r' : List α} (hs : s ≠ []) (hl : ∀ a ∈ l, a ∉ s)
    (hr : ∀ a ∈ r, a ∉ s) :
    l' ++ (s ++ r') = l ++ (s ++ r) ↔ l' = l ∧ r' = r := by
  constructor
  · intro h
    -- The members of the separator are used up, so there are none in front.
    have hl' : ∀ a ∈ l', a ∉ s := by
      have hfilter (k : List α) (hk : ∀ a ∈ k, a ∉ s) :
          k.filter (· ∈ s) = [] := by
        simpa [List.filter_eq_nil_iff] using hk
      have hkeep : s.filter (· ∈ s) = s :=
        List.filter_eq_self.mpr fun a ha => by simpa using ha
      have hlength := congrArg (fun k => (k.filter (· ∈ s)).length) h
      simp only [List.filter_append, List.length_append, hfilter l hl,
        hfilter r hr, hkeep, List.length_nil] at hlength
      have hnone : l'.filter (· ∈ s) = [] :=
        List.eq_nil_of_length_eq_zero (by omega)
      simpa [List.filter_eq_nil_iff] using hnone
    have htake (k t : List α) (hk : ∀ a ∈ k, a ∉ s) :
        (k ++ (s ++ t)).takeWhile (· ∉ s) = k := by
      obtain ⟨a, rest, rfl⟩ := List.exists_cons_of_ne_nil hs
      rw [List.takeWhile_append_of_pos (by simpa using hk)]
      simp
    have hfront : l' = l := by
      rw [← htake l' r' hl', h, htake l r hl]
    subst hfront
    exact ⟨rfl, List.append_cancel_left (List.append_cancel_left h)⟩
  · rintro ⟨rfl, rfl⟩
    rfl

namespace Text

theorem append_separator_inj {s l r l' r' : String} (hs : s ≠ "")
    (hl : ∀ c ∈ l.toList, c ∉ s.toList) (hr : ∀ c ∈ r.toList, c ∉ s.toList) :
    l' ++ (s ++ r') = l ++ (s ++ r) ↔ l' = l ∧ r' = r := by
  have hs' : s.toList ≠ [] := by simpa using hs
  simp only [← String.toList_inj, String.toList_append,
    HandlerRecognition.append_separator_inj hs' hl hr]

/-- Only a single empty text leaves no trace of itself. -/
theorem commaSeparated_eq_empty_iff {items : List String} :
    commaSeparated items = "" ↔ items = [] ∨ items = [""] := by
  match items with
  | [] => simp [commaSeparated]
  | [a] => simp [commaSeparated]
  | a :: b :: rest => simp [commaSeparated, String.append_eq_empty_iff]

end Text

theorem Signature.returnTypeName_eq_iff {s : Signature} {name : String}
    (h : name ≠ voidName) :
    s.returnTypeName = name ↔ s.returnType? = some name := by
  rw [returnTypeName]
  cases s.returnType? with
  | none => simpa using h.symm
  | some other => simp

namespace MemberRecord

/-- The member that reads the handle of a field, up to a parameter type without
a name. -/
structure ReadsFieldHandle (m : MemberRecord) : Prop where
  returnType? : m.signature.returnType? = some "System.RuntimeFieldHandle"
  parent : m.parent = "System.Reflection.FieldInfo"
  name : m.name = "get_FieldHandle"
  parameters : m.signature.parameters = [] ∨ m.signature.parameters = [""]

theorem fullName_eq (m : MemberRecord) :
    m.fullName = m.signature.returnTypeName ++ (" " ++ (m.parent ++ ("::" ++
      (m.name ++ ("(" ++
        (Text.commaSeparated m.signature.parameters ++ ")")))))) := by
  simp only [fullName, String.append_assoc]

/-- No other split of the text gives the full name of the accessor. -/
theorem fullName_eq_iff {m : MemberRecord} :
    m.fullName = Inspection.fieldHandleAccessor ↔ m.ReadsFieldHandle := by
  have haccessor : Inspection.fieldHandleAccessor =
      "System.RuntimeFieldHandle" ++ (" " ++ ("System.Reflection.FieldInfo" ++
        ("::" ++ ("get_FieldHandle" ++ ("(" ++ ("" ++ ")")))))) := rfl
  rw [fullName_eq, haccessor,
    Text.append_separator_inj (by decide) (by simp) (by simp),
    Text.append_separator_inj (by decide) (by simp) (by simp),
    Text.append_separator_inj (by decide) (by simp) (by simp),
    String.append_left_inj, Text.commaSeparated_eq_empty_iff,
    Signature.returnTypeName_eq_iff (by decide)]
  constructor
  · rintro ⟨hreturn, hparent, hname, hparameters⟩
    exact ⟨hreturn, hparent, hname, hparameters⟩
  · intro h
    exact ⟨h.returnType?, h.parent, h.name, h.parameters⟩

/-- Among the members whose parameter types have names, the accessor is
recognised by its full name. -/
theorem fullName_eq_iff_of_named {m : MemberRecord}
    (h : ∀ name ∈ m.signature.parameters, name ≠ "") :
    m.fullName = Inspection.fieldHandleAccessor ↔
      m = ⟨m.token, "System.Reflection.FieldInfo", "get_FieldHandle",
        ⟨some "System.RuntimeFieldHandle", []⟩⟩ := by
  rw [fullName_eq_iff]
  constructor
  · intro hreads
    have hparameters : m.signature.parameters = [] :=
      hreads.parameters.resolve_right fun hempty => by simp [hempty] at h
    obtain ⟨token, parent, name, ⟨returnType?, parameters⟩⟩ := m
    obtain ⟨rfl, rfl, rfl, -⟩ := hreads
    simp only at hparameters
    rw [hparameters]
  · intro hm
    rw [hm]
    exact ⟨rfl, rfl, rfl, Or.inl rfl⟩

end MemberRecord

end HandlerRecognition
