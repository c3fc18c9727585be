import HandlerRecognition.Proofs.Matching.Fitting
import HandlerRecognition.Resolution.Resolver
import Mathlib.Data.List.Forall2

/-!
# Trials against locations

A trial walks along the positions that the anchor allows and stops where the
verifier holds, remembering whether a shape has fitted. `Matcher.attempt_eq`
reads the result off two searches that know nothing of each other: the first
position at which shape and verifier agree, and whether the shape fits anywhere.

On a list of templates this makes the candidates the templates that are located,
and, where none is, the refused names those of the templates that fit somewhere.
-/

namespace HandlerRecognition

namespace Matcher

variable (verifies : Matcher) (t : Template) (body : Body)

/-- What the walk has in hand when `positions` are left: only whether a shape
has fitted before is carried along. -/
theorem attemptAt_eq (isShaped : Bool) (positions : List Nat) :
    verifies.attemptAt t body isShaped positions =
      match positions.find? fun p => t.fitsAt body p && verifies t body p with
      | some p => .matched p
      | none =>
        if isShaped || positions.any (t.fitsAt body) then .refused
        else .absent := by
  -- A refused shape sets the flag for the rest of the walk.
  induction positions generalizing isShaped with
  | nil => simp [attemptAt]
  | cons p ps ih =>
      rw [attemptAt]
      cases hfits : t.fitsAt body p with
      | false => simp [ih, hfits]
      | true =>
          cases hverifies : verifies t body p with
          | true => simp [hfits, hverifies]
          | false => simp [ih, hfits, hverifies]

/-- An attempt reports the first position at which the template is located, and
otherwise whether its shape fits somewhere. -/
theorem attempt_eq :
    verifies.attempt t body =
      match verifies.locate? t body with
      | some p => .matched p
      | none => if t.fitsSomewhere body then .refused else .absent := by
  rw [attempt, attemptAt_eq, Bool.false_or]
  rfl

/-- A candidate stands for a template that is located. -/
structure Locates (c : Candidate) (t : Template) : Prop where
  template : c.template = t
  target : t.target? = some c.target
  position : verifies.locate? t body = some c.position

theorem trials_cons_of_target {t : Template} {target : Opcode}
    (h : t.target? = some target) (ts : List Template) :
    verifies.trials body (t :: ts) =
      ⟨target, t, verifies.attempt t body⟩ :: verifies.trials body ts := by
  simp [trials, h]

/-- The candidates stand for the located templates, one for each. -/
theorem forall₂_candidates {ts : List Template}
    (hts : ∀ t ∈ ts, t.target?.isSome) :
    List.Forall₂ (verifies.Locates body)
      (Trial.candidates (verifies.trials body ts))
      (ts.filter fun t => (verifies.locate? t body).isSome) := by
  induction ts with
  | nil => exact .nil
  | cons t ts ih =>
      obtain ⟨target, htarget⟩ :=
        Option.isSome_iff_exists.mp (hts t List.mem_cons_self)
      have hrest := ih fun t' ht' => hts t' (List.mem_cons_of_mem _ ht')
      rw [Trial.candidates] at hrest ⊢
      rw [verifies.trials_cons_of_target body htarget, attempt_eq]
      cases hlocate : verifies.locate? t body with
      | none =>
          rw [List.filter_cons_of_neg (by simp [hlocate])]
          cases t.fitsSomewhere body with
          | false =>
              rw [List.filterMap_cons_none rfl]
              exact hrest
          | true =>
              rw [List.filterMap_cons_none rfl]
              exact hrest
      | some p =>
          rw [List.filter_cons_of_pos (by simp [hlocate])]
          exact .cons ⟨rfl, htarget, hlocate⟩ hrest

/-- Where no template is located, the refused names are those of the templates
that fit somewhere. -/
theorem refusedNames_eq {ts : List Template}
    (hts : ∀ t ∈ ts, t.target?.isSome)
    (hnone : ∀ t ∈ ts, verifies.locate? t body = none) :
    Trial.refusedNames (verifies.trials body ts) =
      (ts.filter fun t => t.fitsSomewhere body).map Template.name := by
  induction ts with
  | nil => rfl
  | cons t ts ih =>
      obtain ⟨target, htarget⟩ :=
        Option.isSome_iff_exists.mp (hts t List.mem_cons_self)
      have hrest := ih (fun t' ht' => hts t' (List.mem_cons_of_mem _ ht'))
        fun t' ht' => hnone t' (List.mem_cons_of_mem _ ht')
      rw [Trial.refusedNames] at hrest ⊢
      rw [verifies.trials_cons_of_target body htarget, attempt_eq,
        hnone t List.mem_cons_self]
      cases hfits : t.fitsSomewhere body with
      | false => simpa [Trial.refusedName?, hfits] using hrest
      | true => simpa [Trial.refusedName?, hfits] using hrest

theorem targets_of_forall₂ {cs : List Candidate} {ts : List Template}
    (h : List.Forall₂ (verifies.Locates body) cs ts) :
    cs.map Candidate.target = ts.filterMap Template.target? := by
  induction h with
  | nil => rfl
  | cons hct _ ih => simp [hct.target, ih]

section Located

variable {verifies : Matcher} {t : Template} {body : Body} {position : Nat}

theorem of_locate?_eq_some (h : verifies.locate? t body = some position) :
    position ∈ (t.anchor.span body.length).positions ∧
      t.fitsAt body position = true ∧ verifies t body position = true := by
  have haccepted := List.find?_some h
  rw [Bool.and_eq_true] at haccepted
  exact ⟨List.mem_of_find?_eq_some h, haccepted⟩

theorem fitsSomewhere_of_locate? (h : (verifies.locate? t body).isSome) :
    t.fitsSomewhere body = true := by
  obtain ⟨p, hp⟩ := Option.isSome_iff_exists.mp h
  obtain ⟨hmem, hfits, -⟩ := of_locate?_eq_some hp
  exact List.any_eq_true.mpr ⟨p, hmem, hfits⟩

theorem eq_zero_of_locate? (ht : t.anchor = .start)
    (h : verifies.locate? t body = some position) : position = 0 := by
  have hmem := (of_locate?_eq_some h).1
  simp only [ht, Anchor.span, Span.mem_positions] at hmem
  omega

end Located

end Matcher

namespace Catalog

theorem isSome_target?_of_mem_bound {c : Catalog} {t : Template}
    (h : t ∈ c.bound) : t.target?.isSome := by
  simpa [bound, Template.isInternal, ← Option.isSome_iff_ne_none] using
    (List.mem_filter.mp h).2

end Catalog

namespace Outcome

/-- The four ways in which trials lead to an outcome, with what tells them
apart. -/
theorem ofTrials_cases (id : HandlerId) (trials : List Trial) :
    (2 ≤ (Trial.targets trials).length ∧
      ofTrials id trials = .ambiguous (Trial.targets trials)) ∨
    (∃ c cs, Trial.candidates trials = c :: cs ∧
      (Trial.targets trials).length < 2 ∧
      ofTrials id trials =
        .bound ⟨id, c.target, c.template.name, c.position,
          c.template.isVerified⟩) ∨
    (Trial.candidates trials = [] ∧ Trial.refusedNames trials = [] ∧
      ofTrials id trials = .unresolved .noMatch) ∨
    (Trial.candidates trials = [] ∧ Trial.refusedNames trials ≠ [] ∧
      ofTrials id trials =
        .unresolved (.rejected (Trial.refusedNames trials))) := by
  by_cases htwo : 2 ≤ (Trial.targets trials).length
  · exact Or.inl ⟨htwo, if_pos htwo⟩
  · have houtcome : ofTrials id trials = _ := if_neg htwo
    cases hc : Trial.candidates trials with
    | cons c cs =>
        rw [hc] at houtcome
        exact Or.inr (Or.inl ⟨c, cs, rfl, Nat.lt_of_not_le htwo, houtcome⟩)
    | nil =>
        rw [hc] at houtcome
        by_cases hnames : Trial.refusedNames trials = []
        · refine Or.inr (Or.inr (Or.inl ⟨rfl, hnames, ?_⟩))
          simpa [hnames] using houtcome
        · refine Or.inr (Or.inr (Or.inr ⟨rfl, hnames, ?_⟩))
          simpa [hnames] using houtcome

end Outcome

end HandlerRecognition
