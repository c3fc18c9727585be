import HandlerRecognition.Catalog.Index
import HandlerRecognition.Proofs.Catalog.Lookup
import Mathlib.Data.List.FinRange

/-!
# What an index says

A list of templates is refused for the first of its templates that has no slot
or an earlier name (`Catalog.firstFault_iff`).

The index of a list is filled one position at a time. What it says of the
positions so far is `Catalog.Index.Covers`: names lead to the position with this
name, and targets to their positions in ascending order. One more position with
a new name keeps this up, so it holds of all positions unless one of them has a
fault, and then it is the fault that `Catalog.fault?` finds.
-/

namespace HandlerRecognition

namespace Catalog

section Fault

variable {ts : List Template} {t : Template} {seen seen' : List String}
  {fault : CatalogFault}

theorem templateFault?_eq_some_iff :
    templateFault? seen t = some fault ↔
      (t.isEmpty = true ∧ fault = .noSlots t.name) ∨
        (t.isEmpty = false ∧ t.name ∈ seen ∧ fault = .repeatedName t.name) := by
  rw [templateFault?]
  cases t.isEmpty with
  | true => simp [eq_comm]
  | false => simp [eq_comm]

theorem templateFault?_congr (h : ∀ name, name ∈ seen ↔ name ∈ seen') :
    templateFault? seen t = templateFault? seen' t := by
  refine Option.ext fun fault => ?_
  rw [templateFault?_eq_some_iff, templateFault?_eq_some_iff, h]

/-- The fault of a list is that of the first template that has one. -/
theorem fault?_eq_some_iff :
    fault? seen ts = some fault ↔
      ∃ before t after, ts = before ++ t :: after ∧ fault? seen before = none ∧
        templateFault? (before.map Template.name ++ seen) t = some fault := by
  induction ts generalizing seen with
  | nil => simp [fault?]
  | cons u ts ih =>
      have hseen (before : List Template) (t : Template) :
          templateFault? ((u :: before).map Template.name ++ seen) t =
            templateFault? (before.map Template.name ++ u.name :: seen) t :=
        templateFault?_congr fun name => by simp [or_left_comm]
      rw [exists_place_cons_iff]
      simp only [hseen, fault?, List.map_nil, List.nil_append]
      cases hu : templateFault? seen u with
      | some found => simp
      | none => simp [ih]

/-- The fault of the first template without a slot or with an earlier name. For
a template with both, it is that it has no slot. -/
def FirstFault (ts : List Template) (fault : CatalogFault) : Prop :=
  ∃ before t after, ts = before ++ t :: after ∧
    (∀ u ∈ before, u.isEmpty = false) ∧ (before.map Template.name).Nodup ∧
    ((t.isEmpty = true ∧ fault = .noSlots t.name) ∨
      (t.isEmpty = false ∧ t.name ∈ before.map Template.name ∧
        fault = .repeatedName t.name))

theorem fault?_nil_eq_none_iff :
    fault? [] ts = none ↔
      (∀ t ∈ ts, t.isEmpty = false) ∧ (ts.map Template.name).Nodup := by
  rw [fault?_eq_none_iff, fresh_of_not_seen]

theorem firstFault_iff : FirstFault ts fault ↔ fault? [] ts = some fault := by
  simp only [fault?_eq_some_iff, fault?_nil_eq_none_iff, List.append_nil,
    templateFault?_eq_some_iff, FirstFault, and_assoc]

theorem exists_fault_iff :
    (∃ fault, fault? [] ts = some fault) ↔
      (∃ t ∈ ts, t.isEmpty = true) ∨ ¬(ts.map Template.name).Nodup := by
  rw [← Option.ne_none_iff_exists', Ne, fault?_nil_eq_none_iff, not_and_or]
  simp

end Fault

namespace Index

section Push

variable {κ α : Type} [DecidableEq κ] {key k : κ} {a : α}
  {l : List (κ × List α)}

theorem lookup_cons {β : Type} (e : κ × β) (l : List (κ × β)) :
    (e :: l).lookup k = if k = e.1 then some e.2 else l.lookup k := by
  obtain ⟨key, value⟩ := e
  rw [List.lookup_cons]
  by_cases h : k = key
  · simp [h]
  · rw [beq_false_of_ne h, if_neg h]

/-- Only the values under the one key are changed. -/
theorem lookup_push :
    (push key a l).lookup k =
      if k = key then some ((l.lookup key).getD [] ++ [a])
      else l.lookup k := by
  induction l with
  | nil => simp [push, lookup_cons]
  | cons e rest ih =>
      rw [push]
      by_cases he : e.1 = key
      · rw [if_pos he, lookup_cons, lookup_cons, lookup_cons, if_pos he.symm, he]
        by_cases hk : k = key <;> simp [hk]
      · rw [if_neg he, lookup_cons, lookup_cons, lookup_cons,
          if_neg (Ne.symm he), ih]
        by_cases hk : k = e.1
        · simp [hk, he]
        · simp [hk]

theorem mem_keys_push :
    k ∈ (push key a l).map Prod.fst ↔ k = key ∨ k ∈ l.map Prod.fst := by
  induction l with
  | nil => simp [push]
  | cons e rest ih =>
      rw [push]
      split
      case isTrue he => simp [he]
      case isFalse he =>
          rw [List.map_cons, List.mem_cons, ih, List.map_cons, List.mem_cons,
            or_left_comm]

end Push

section Covers

variable {ts : List Template} {x : Index ts} {done : List (Fin ts.length)}
  {i : Fin ts.length}

theorem position?_insert (name : String) :
    (x.insert i).position? name =
      if name = (ts.get i).name then some i else x.position? name :=
  lookup_cons _ _

theorem positions_insert (o : Opcode) :
    (x.insert i).positions o =
      x.positions o ++ if (ts.get i).target? = some o then [i] else [] := by
  rw [positions, insert]
  cases (ts.get i).target? with
  | none => simp [positions]
  | some o' =>
      by_cases ho : o = o'
      · simp [positions, lookup_push, ho]
      · simp [positions, lookup_push, ho, Ne.symm ho]

theorem mem_targets_insert {o : Opcode} :
    o ∈ (x.insert i).targets.map Prod.fst ↔
      o ∈ x.targets.map Prod.fst ∨ (ts.get i).target? = some o := by
  rw [insert]
  cases (ts.get i).target? with
  | none => simp
  | some o' =>
      rw [mem_keys_push, Option.some.injEq, or_comm, eq_comm]

/-- What the index says of the positions that were added. -/
structure Covers (x : Index ts) (done : List (Fin ts.length)) : Prop where
  position? (name : String) (i : Fin ts.length) :
    x.position? name = some i ↔ i ∈ done ∧ (ts.get i).name = name
  positions (o : Opcode) :
    x.positions o = done.filter fun i => (ts.get i).target? = some o
  mem_targets (o : Opcode) :
    o ∈ x.targets.map Prod.fst ↔ ∃ i ∈ done, (ts.get i).target? = some o

theorem covers_empty : (empty : Index ts).Covers [] :=
  ⟨by simp [empty, Index.position?], fun _ => rfl, by simp [empty]⟩

/-- A position with a new name is found, and nothing that was found is lost. -/
theorem Covers.insert (h : x.Covers done)
    (hnew : ∀ j ∈ done, (ts.get j).name ≠ (ts.get i).name) :
    (x.insert i).Covers (done ++ [i]) := by
  constructor
  case position? =>
      intro name j
      rw [position?_insert, List.mem_append, List.mem_singleton]
      by_cases hname : name = (ts.get i).name
      · subst hname
        rw [if_pos rfl, Option.some.injEq]
        constructor
        · rintro rfl
          exact ⟨Or.inr rfl, rfl⟩
        · rintro ⟨hj | rfl, hsame⟩
          · exact absurd hsame (hnew j hj)
          · rfl
      · rw [if_neg hname, h.position?]
        constructor
        · rintro ⟨hj, hsame⟩
          exact ⟨Or.inl hj, hsame⟩
        · rintro ⟨hj | rfl, hsame⟩
          · exact ⟨hj, hsame⟩
          · exact absurd hsame.symm hname
  case positions =>
      intro o
      rw [positions_insert, h.positions, List.filter_append]
      congr 1
      split
      case isTrue ho => rw [List.filter_cons_of_pos (by simpa using ho)]; rfl
      case isFalse ho => rw [List.filter_cons_of_neg (by simpa using ho)]; rfl
  case mem_targets =>
      intro o
      rw [mem_targets_insert, h.mem_targets]
      constructor
      · rintro (⟨j, hj, ho⟩ | ho)
        · exact ⟨j, List.mem_append_left _ hj, ho⟩
        · exact ⟨i, List.mem_append_right _ (List.mem_singleton_self i), ho⟩
      · rintro ⟨j, hj, ho⟩
        rcases List.mem_append.mp hj with hj | hj
        · exact Or.inl ⟨j, hj, ho⟩
        · obtain rfl := List.mem_singleton.mp hj
          exact Or.inr ho

/-- A position is refused for the fault of the template at it. -/
theorem Covers.add_eq (h : x.Covers done) (i : Fin ts.length) :
    x.add i =
      match templateFault? (done.map fun j => (ts.get j).name) (ts.get i) with
      | some fault => .error fault
      | none => .ok (x.insert i) := by
  have hseen : (x.position? (ts.get i).name).isSome =
      (done.map fun j => (ts.get j).name).contains (ts.get i).name := by
    rw [Bool.eq_iff_iff, Option.isSome_iff_exists, List.contains_iff_mem,
      List.mem_map]
    exact exists_congr fun j => h.position? _ _
  rw [add, templateFault?, hseen]
  split
  · rfl
  · split <;> rfl

/-- Adding all of a list of positions stops at the first fault, or all of them
are found. -/
theorem Covers.addAll_cases (h : x.Covers done) {seen : List String}
    (rest : List (Fin ts.length))
    (hseen : ∀ name, name ∈ seen ↔ ∃ j ∈ done, (ts.get j).name = name) :
    (∃ fault, fault? seen (rest.map ts.get) = some fault ∧
      x.addAll rest = .error fault) ∨
    ∃ x', fault? seen (rest.map ts.get) = none ∧ x.addAll rest = .ok x' ∧
      x'.Covers (done ++ rest) := by
  induction rest generalizing x done seen with
  | nil => exact Or.inr ⟨x, rfl, rfl, by rwa [List.append_nil]⟩
  | cons i rest ih =>
      have htemplate : templateFault? (done.map fun j => (ts.get j).name)
          (ts.get i) = templateFault? seen (ts.get i) :=
        templateFault?_congr fun name => by rw [hseen, List.mem_map]
      have hadd := h.add_eq i
      rw [htemplate] at hadd
      rw [List.map_cons, fault?, addAll]
      cases hfault : templateFault? seen (ts.get i) with
      | some fault =>
          rw [hfault] at hadd
          rw [hadd]
          exact Or.inl ⟨fault, rfl, rfl⟩
      | none =>
          rw [hfault] at hadd
          rw [hadd]
          have hnew : ∀ j ∈ done, (ts.get j).name ≠ (ts.get i).name :=
            fun j hj hsame => (templateFault?_eq_none_iff.mp hfault).2
              ((hseen _).mpr ⟨j, hj, hsame⟩)
          have hlater (name : String) : name ∈ (ts.get i).name :: seen ↔
              ∃ j ∈ done ++ [i], (ts.get j).name = name := by
            simp [hseen, or_and_right, exists_or, or_comm, eq_comm]
          have hrest := ih (h.insert hnew) hlater
          rwa [List.append_assoc] at hrest

/-- Building an index fails with the first fault, or all positions are found. -/
theorem build_cases (ts : List Template) :
    (∃ fault, fault? [] ts = some fault ∧ build ts = .error fault) ∨
      ∃ x, fault? [] ts = none ∧ build ts = .ok x ∧
        x.Covers (List.finRange ts.length) := by
  have hseen (name : String) : name ∈ [] ↔
      ∃ j ∈ ([] : List (Fin ts.length)), (ts.get j).name = name := by simp
  have hcases := covers_empty.addAll_cases (List.finRange ts.length) hseen
  rwa [List.map_get_finRange, List.nil_append] at hcases

end Covers

end Index

end Catalog

end HandlerRecognition
