import Mathlib.Data.List.Nodup

/-!
# Lists with keys

Templates and records are told apart by a key, a name or a token. A list is
`Fresh` if its keys are all different and none of them has been seen before, and
an examination that goes through the list with the keys so far in hand can tell.
Where no key is repeated, a search by key finds a member exactly if the member
has the key.

An examination that stops does so at a place of the list, with everything before
this place in hand.
-/

namespace HandlerRecognition

section Keyed

variable {α κ : Type} {key : α → κ} {seen : List κ} {a : α} {l : List α}

/-- The keys of a list are all different, and none of them has been seen. -/
def Fresh (key : α → κ) (seen : List κ) (l : List α) : Prop :=
  (∀ a ∈ l, key a ∉ seen) ∧ (l.map key).Nodup

@[simp] theorem fresh_nil : Fresh key seen [] := by
  simp [Fresh]

/-- The first key must be new, and the later ones must differ from it as
well. -/
theorem fresh_cons :
    Fresh key seen (a :: l) ↔ key a ∉ seen ∧ Fresh key (key a :: seen) l := by
  simp only [Fresh, List.map_cons, List.nodup_cons, List.mem_cons, not_or,
    List.mem_map, not_exists, not_and]
  grind

theorem fresh_append {seen l l' : List κ} :
    Fresh id seen (l ++ l') ↔ Fresh id seen l ∧ Fresh id (l ++ seen) l' := by
  simp only [Fresh, List.mem_append, List.map_id, List.nodup_append, id]
  grind

theorem fresh_of_not_seen : Fresh key [] l ↔ (l.map key).Nodup := by
  simp [Fresh]

theorem find?_key_eq_some_iff [BEq κ] [LawfulBEq κ] (h : (l.map key).Nodup)
    {k : κ} :
    (l.find? fun b => key b == k) = some a ↔ a ∈ l ∧ key a = k := by
  constructor
  · intro hfind
    exact ⟨List.mem_of_find?_eq_some hfind,
      by simpa using List.find?_some hfind⟩
  · intro ⟨hmem, hkey⟩
    cases hfind : l.find? fun b => key b == k with
    | none =>
        have hne := List.find?_eq_none.mp hfind a hmem
        simp [hkey] at hne
    | some b =>
        have hb : key b = k := by simpa using List.find?_some hfind
        exact congrArg some (List.inj_on_of_nodup_map h
          (List.mem_of_find?_eq_some hfind) hmem (hb.trans hkey.symm))

/-- A place in a list is its front, or a place further behind. -/
theorem exists_place_cons_iff {P : List α → α → Prop} :
    (∃ before b after, a :: l = before ++ b :: after ∧ P before b) ↔
      P [] a ∨ ∃ before b after, l = before ++ b :: after ∧
        P (a :: before) b := by
  constructor
  · rintro ⟨before, b, after, hl, h⟩
    cases before with
    | nil =>
        obtain ⟨rfl, rfl⟩ := List.cons.inj hl
        exact Or.inl h
    | cons a' before =>
        obtain ⟨rfl, rfl⟩ := List.cons.inj hl
        exact Or.inr ⟨before, b, after, rfl, h⟩
  · rintro (h | ⟨before, b, after, rfl, h⟩)
    · exact ⟨[], a, l, rfl, h⟩
    · exact ⟨a :: before, b, after, rfl, h⟩

end Keyed

end HandlerRecognition
