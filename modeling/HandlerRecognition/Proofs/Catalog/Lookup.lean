import HandlerRecognition.Catalog.Builtin
import HandlerRecognition.Proofs.Keyed
import Mathlib.Data.List.Perm.Basic

/-!
# Looking up templates by name

A list of templates has no fault exactly if every template has a slot and no two
share a name. So the template with a name is determined by which templates a
catalog has, whatever their order, and it is still the same one in a catalog
that has more of them.
-/

namespace HandlerRecognition

namespace Catalog

variable {ts ts' : List Template} {c c' : Catalog} {t : Template}
  {name : String}

theorem templateFault?_eq_none_iff {seen : List String} :
    templateFault? seen t = none ↔ t.isEmpty = false ∧ t.name ∉ seen := by
  rw [templateFault?]
  cases t.isEmpty with
  | true => simp
  | false => simp

/-- What it takes for a list to have no fault, given the names before it. -/
theorem fault?_eq_none_iff {seen : List String} :
    fault? seen ts = none ↔
      (∀ t ∈ ts, t.isEmpty = false) ∧ Fresh Template.name seen ts := by
  induction ts generalizing seen with
  | nil => simp [fault?]
  | cons t ts ih =>
      rw [fault?, List.forall_mem_cons, fresh_cons, and_and_and_comm,
        ← templateFault?_eq_none_iff]
      cases htemplate : templateFault? seen t with
      | some fault => simp
      | none => simp [ih]

theorem nodup_names (c : Catalog) : (c.templates.map Template.name).Nodup :=
  (fault?_eq_none_iff.mp c.sound).2.2

theorem length_pos_of_mem (h : t ∈ c.templates) : 0 < t.length := by
  have hslots := (fault?_eq_none_iff.mp c.sound).1 t h
  rw [Template.isEmpty, List.isEmpty_eq_false_iff] at hslots
  exact List.length_pos_iff.mpr hslots

theorem find?_eq_some_iff :
    c.find? name = some t ↔ t ∈ c.templates ∧ t.name = name :=
  find?_key_eq_some_iff c.nodup_names

/-- A catalog with more templates has the same template under a name. -/
theorem find?_mono (h : c.templates ⊆ c'.templates)
    (hfind : c.find? name = some t) : c'.find? name = some t := by
  rw [find?_eq_some_iff] at hfind ⊢
  exact ⟨h hfind.1, hfind.2⟩

theorem find?_perm (h : c.templates.Perm c'.templates) (name : String) :
    c.find? name = c'.find? name := by
  refine Option.ext fun t => ?_
  rw [find?_eq_some_iff, find?_eq_some_iff, h.mem_iff]

/-- Whether a list can be built does not depend on its order. -/
theorem build_perm (h : ts.Perm ts') (hc : build ts = .ok c) :
    ∃ c', build ts' = .ok c' := by
  have hsound : fault? [] ts = none := by
    rw [← build_eq_ok_iff.mp hc]
    exact c.sound
  have hsound' : fault? [] ts' = none := by
    rw [fault?_eq_none_iff, fresh_of_not_seen] at hsound ⊢
    exact ⟨fun t ht => hsound.1 t (h.mem_iff.mpr ht),
      (h.map Template.name).nodup_iff.mp hsound.2⟩
  exact ⟨⟨ts', hsound'⟩, build_eq_ok_iff.mpr rfl⟩

end Catalog

end HandlerRecognition
