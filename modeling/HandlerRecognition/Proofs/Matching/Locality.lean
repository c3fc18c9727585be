import HandlerRecognition.Matching.Search

/-!
# Matches are local

Where a template sits, its slots and its verifier look at the instructions from
there on and at nothing before. `Verifier.offsets` lists how far ahead a verifier
looks, and `Verifier.holdsBy_congr` says that it looks nowhere else. So a match is
kept when instructions are put in front of a body
(`Environment.accepts_append_left`). A template of a part of a body whose verifier
looks at its slots only (`Template.ReadsWithin`) does not see what follows these
either (`Environment.accepts_append_right`).
-/

namespace HandlerRecognition

section Offsets

variable {s s' : Site}

namespace Inspection

/-- The offsets at which an inspection reads instructions. -/
def offsets : Inspection → List Nat
  | .resolvesString => [6]
  | .setsFlag | .readsTop | .takesTop => [2]
  | .wrapsObject | .wrapsInteger => [1]
  | .loadsFieldHandle => [2, 3]
  | .boxesAsType => [7, 13]

/-- Sites at which an inspection reads the same instructions are alike to it. -/
theorem holds_congr {i : Inspection} (henv : s.env = s'.env)
    (h : ∀ o ∈ i.offsets, s.instruction? o = s'.instruction? o) :
    i.holds s = i.holds s' := by
  cases i <;>
    simp only [offsets, List.forall_mem_cons] at h <;>
    simp only [holds, constructsWrapper, readsThrough, called?,
      Site.constructedType?, Site.returnsType, Site.takesTypes, Site.method?,
      Site.member?, Site.field?, Site.methodToken?, henv, h]

end Inspection

theorem Delegation.holdsBy_congr_of_instruction {d : Delegation}
    {deeper? : Option Matcher} (henv : s.env = s'.env)
    (h : s.instruction? d.offset = s'.instruction? d.offset) :
    d.holdsBy s deeper? = d.holdsBy s' deeper? := by
  have hhelper : s.helper? d.offset d.templateName =
      s'.helper? d.offset d.templateName := by
    simp only [Site.helper?, Site.methodToken?, henv, h]
  simp only [holdsBy, Site.delegatesToBy, Site.occurrencesBy, hhelper]

/-- The offsets at which a verifier reads instructions. In a helper method it
starts anew. -/
def Verifier.offsets : Verifier → List Nat
  | .constant _ => []
  | .inspection i => i.offsets
  | .delegation d => [d.offset]

/-- Sites at which a verifier reads the same instructions are alike to it. -/
theorem Verifier.holdsBy_congr {v : Verifier} {deeper? : Option Matcher}
    (henv : s.env = s'.env)
    (h : ∀ o ∈ v.offsets, s.instruction? o = s'.instruction? o) :
    v.holdsBy s deeper? = v.holdsBy s' deeper? := by
  cases v with
  | constant answer => rfl
  | inspection i => exact Inspection.holds_congr henv h
  | delegation d =>
      exact Delegation.holdsBy_congr_of_instruction henv
        (h d.offset List.mem_cons_self)

namespace Template

/-- The offsets at which the verifier of a template, if it has one, reads
instructions. -/
def offsets (t : Template) : List Nat :=
  t.verifier?.elim [] Verifier.offsets

/-- The verifier reads instructions only where the template has slots. -/
def ReadsWithin (t : Template) : Prop :=
  ∀ o ∈ t.offsets, o < t.length

instance : DecidablePred ReadsWithin :=
  fun t => inferInstanceAs (Decidable (∀ o ∈ t.offsets, o < t.length))

theorem passesBy_congr {t : Template} {deeper? : Option Matcher}
    (henv : s.env = s'.env)
    (h : ∀ o ∈ t.offsets, s.instruction? o = s'.instruction? o) :
    t.passesBy s deeper? = t.passesBy s' deeper? := by
  rw [offsets] at h
  rw [passesBy, passesBy]
  cases hverifier : t.verifier? with
  | none => rfl
  | some v =>
      rw [hverifier] at h
      exact Verifier.holdsBy_congr henv h

end Template

theorem Builtin.readsWithin : ∀ t ∈ templates, t.ReadsWithin := by
  decide

end Offsets

section Surroundings

variable {env : Environment} {t : Template} {before body after : Body} {i : Nat}

namespace Template

/-- What comes before a position does not matter to a shape. -/
theorem fitsAt_append_left :
    t.fitsAt (before ++ body) (before.length + i) = t.fitsAt body i := by
  have hremaining : (before ++ body).length - (before.length + i) =
      body.length - i := by
    rw [List.length_append, Nat.add_sub_add_left]
  have hstart : before.length + i ≤ (before ++ body).length ↔
      i ≤ body.length := by
    rw [List.length_append, Nat.add_le_add_iff_left]
  simp only [fitsAt, hremaining, hstart, List.drop_length_add_append]

/-- What comes after its slots does not matter to the shape of a part of a
body. -/
theorem fitsAt_append_right (hextent : t.extent = .window)
    (hroom : i + t.length ≤ body.length) :
    t.fitsAt (body ++ after) i = t.fitsAt body i := by
  have hslot (k : Nat) (hk : k < t.length) :
      (body ++ after)[i + k]? = body[i + k]? :=
    List.getElem?_append_left (by omega)
  have hlong : i + t.length ≤ (body ++ after).length := by
    rw [List.length_append]
    omega
  rw [Bool.eq_iff_iff, fitsAt_iff, fitsAt_iff, hextent]
  simp only [Extent.allows, decide_eq_true_eq]
  constructor
  · rintro ⟨-, -, hslots⟩
    refine ⟨by omega, by omega, fun k slot j hk hj => hslots k slot j hk ?_⟩
    rwa [hslot k (List.getElem?_eq_some_iff.mp hk).1]
  · rintro ⟨-, -, hslots⟩
    refine ⟨by omega, by omega, fun k slot j hk hj => hslots k slot j hk ?_⟩
    rwa [← hslot k (List.getElem?_eq_some_iff.mp hk).1]

end Template

namespace Environment

/-- A template is accepted behind other instructions where it is accepted without
them. -/
theorem accepts_append_left (env : Environment) (t : Template)
    (before body : Body) (i : Nat) :
    env.accepts t (before ++ body) (before.length + i) =
      env.accepts t body i := by
  have hverifies : env.verifies t (before ++ body) (before.length + i) =
      env.verifies t body i := by
    refine Template.passesBy_congr rfl fun o _ => ?_
    simp only [Site.instruction?, Nat.add_assoc]
    rw [List.getElem?_append_right (Nat.le_add_right _ _),
      Nat.add_sub_cancel_left]
  rw [accepts_eq, accepts_eq, Template.fitsAt_append_left, hverifies]

/-- A template of a part of a body that finds room for its slots is accepted
regardless of what comes after. -/
theorem accepts_append_right (hextent : t.extent = .window)
    (hreads : t.ReadsWithin) (hroom : i + t.length ≤ body.length) :
    env.accepts t (body ++ after) i = env.accepts t body i := by
  have hverifies : env.verifies t (body ++ after) i =
      env.verifies t body i := by
    refine Template.passesBy_congr rfl fun o ho => ?_
    have hoffset := hreads o ho
    exact List.getElem?_append_left (show i + o < body.length by omega)
  rw [accepts_eq, accepts_eq, Template.fitsAt_append_right hextent hroom,
    hverifies]

end Environment

end Surroundings

end HandlerRecognition
