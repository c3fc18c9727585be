import HandlerRecognition.Proofs.Resolution.Insensitivity

/-!
# Renumbered local variables

When the local variables of a body are renumbered, the instructions that load
and store them change within their families. A template in which no slot is one
opcode of a family does not notice, so a catalog of such templates leads to the
same outcome, whatever is renumbered in the handler and in its helpers.

Of the built-in templates, those of `ldtoken` and of `box` are made this way.
Some of the others have slots for single opcodes of a family, but the verifiers
of these two do not look at other templates.
-/

namespace HandlerRecognition

/-- Opcodes that are equal or in one family. -/
def Opcode.Interchangeable (o o' : Opcode) : Prop :=
  o = o' ∨ ∃ f : Family, f.contains o = true ∧ f.contains o' = true

namespace Opcode.Interchangeable

variable {o o' : Opcode}

theorem refl (o : Opcode) : o.Interchangeable o :=
  Or.inl rfl

theorem of?_eq (h : o.Interchangeable o') : Family.of? o = Family.of? o' := by
  rcases h with rfl | ⟨f, ho, ho'⟩
  · rfl
  · rw [Family.of?_eq_some_iff.mpr ho, Family.of?_eq_some_iff.mpr ho']

theorem eq_of_of?_eq_none (h : o.Interchangeable o')
    (hnone : Family.of? o = none) : o = o' := by
  rcases h with rfl | ⟨f, ho, -⟩
  · rfl
  · simp [Family.of?_eq_some_iff.mpr ho] at hnone

end Opcode.Interchangeable

namespace Slot

/-- Whether the slot is for no opcode of a family, or for the whole of it. -/
def isInterchanged : Slot → Bool
  | .exact o => (Family.of? o).isNone
  | .family _ => true

theorem accepts_eq_of_interchangeable {slot : Slot} {o o' : Opcode}
    (hslot : slot.isInterchanged = true) (h : o.Interchangeable o') :
    slot.accepts o = slot.accepts o' := by
  cases slot with
  | family f =>
      rw [accepts, accepts, Bool.eq_iff_iff, ← Family.of?_eq_some_iff,
        ← Family.of?_eq_some_iff, h.of?_eq]
  | exact expected =>
      have hnone : Family.of? expected = none := by
        simpa [isInterchanged] using hslot
      rw [accepts, accepts, Bool.eq_iff_iff, beq_iff_eq, beq_iff_eq]
      constructor
      · rintro rfl
        exact h.eq_of_of?_eq_none hnone
      · rintro rfl
        rw [← h.of?_eq] at hnone
        exact (h.eq_of_of?_eq_none hnone).symm

theorem isInterchanged_widen {x : Interchange} (hx : ∀ f, x.contains f = true)
    (slot : Slot) : (x.widen slot).isInterchanged = true := by
  cases slot with
  | family f => rfl
  | exact o =>
      cases hfamily : Family.of? o with
      | none => simp [Interchange.widen, hfamily, isInterchanged]
      | some f => simp [Interchange.widen, hfamily, hx, isInterchanged]

end Slot

namespace Template

/-- Whether no slot is for a single opcode of a family. -/
def isInterchanged (t : Template) : Bool :=
  t.slots.all Slot.isInterchanged

theorem isInterchanged_interchange {x : Interchange}
    (hx : ∀ f, x.contains f = true) (t : Template) :
    (t.interchange x).isInterchanged = true := by
  simp [isInterchanged, interchange, Slot.isInterchanged_widen hx]

theorem indifferent_of_isInterchanged {t : Template}
    (ht : t.isInterchanged = true) : t.Indifferent Opcode.Interchangeable :=
  fun slot hslot _ _ ho =>
    Slot.accepts_eq_of_interchangeable (List.all_eq_true.mp ht slot hslot) ho

end Template

namespace Resolver

/-- Outcomes do not depend on how local variables are numbered, neither in the
handler nor in the methods of the store, if no slot of the catalog is for a
single opcode of a family. Templates with all families interchanged are of this
kind. In the built-in catalog, it is still true of the templates of `ldtoken`
and of `box` that they are located at the same place. -/
theorem resolveOne_interchangeable (config : Config) {s s' : Store}
    (hstore : s.SimilarUpTo Opcode.Interchangeable s') :
    (∀ c : Catalog, (∀ t ∈ c.templates, t.isInterchanged = true) →
        ∀ g h : Handler, g.SimilarUpTo Opcode.Interchangeable h →
          (Resolver.mk c s config).resolveOne g =
            (Resolver.mk c s' config).resolveOne h) ∧
      (∀ (t : Template) (x : Interchange), (∀ f, x.contains f = true) →
        (t.interchange x).isInterchanged = true) ∧
      ∀ t ∈ [Builtin.ldtoken, Builtin.box], ∀ a b : Body,
        a.SimilarUpTo Opcode.Interchangeable b →
        (Resolver.mk Builtin.catalog s config).environment.locate? t a =
          (Resolver.mk Builtin.catalog s' config).environment.locate? t b := by
  have hr (c : Catalog) : (Resolver.mk c s config).SimilarUpTo
      Opcode.Interchangeable (Resolver.mk c s' config) := ⟨rfl, hstore, rfl⟩
  refine ⟨fun c hc g h hhandler => ?_,
    fun t _ hx => t.isInterchanged_interchange hx, fun t ht a b hbody => ?_⟩
  · exact resolveOne_eq_of_similarUpTo (hr c)
      (fun t ht => Template.indifferent_of_isInterchanged (hc t ht)) hhandler
  · have hslots : ∀ t ∈ [Builtin.ldtoken, Builtin.box],
        t.isInterchanged = true := by
      decide
    have hverifier : ∀ t ∈ [Builtin.ldtoken, Builtin.box],
        ∀ d, t.verifier? ≠ some (.delegation d) := by
      simp [Builtin.ldtoken, Builtin.box, Template.verifiedBy]
    exact Environment.locate?_eq_of_similarUpTo (hr _).environment hbody
      (Template.indifferent_of_isInterchanged (hslots t ht)) (hverifier t ht)

/-- A helper that loads a local variable exactly once, and a handler that loads
one and calls the helper. Both are replaced by others that use other
variables. -/
theorem resolveOne_interchangeable_helper :
    let helper : Token := .ofParts Token.methodTable 1
    let records (load : Opcode) : RecordSet :=
      .ofList [.method ⟨helper, "", none, ⟨none, []⟩,
        some [⟨0, load, .none⟩, ⟨1, .ret, .none⟩]⟩]
    let s : Store := ⟨records .ldloc0, by decide⟩
    let s' : Store := ⟨records .ldloc3, by decide⟩
    let outer : Template :=
      (Template.entire "Outer" (some .nop) [.ldloc1, .call]).interchange .locals
    let inner : Template :=
      (Template.window Builtin.peekStackName none [.ldloc2]).interchange .locals
    let c : Catalog :=
      ⟨[outer.verifiedBy (.delegation .readsTopOnce), inner], by decide⟩
    let handler (load : Opcode) (operand : Operand) : Handler :=
      ⟨⟨1⟩, some [⟨0, load, operand⟩, ⟨2, .call, .token helper⟩]⟩
    let g := handler .ldloc0 .none
    let h := handler .ldlocS (.localVariable 7)
    s.SimilarUpTo Opcode.Interchangeable s' ∧
      (∀ t ∈ c.templates, t.isInterchanged = true) ∧
      g.SimilarUpTo Opcode.Interchangeable h ∧
      (Resolver.new c s).resolveOne g = (Resolver.new c s').resolveOne h ∧
      (Resolver.new c s).resolveOne g =
        .bound ⟨⟨1⟩, .nop, "Outer", 0, true⟩ := by
  intro helper records s s' outer inner c handler g h
  have hload (o o' : Opcode) (ho : Family.loadLocal.contains o = true)
      (ho' : Family.loadLocal.contains o' = true) : o.Interchangeable o' :=
    Or.inr ⟨.loadLocal, ho, ho'⟩
  have hstore : s.SimilarUpTo Opcode.Interchangeable s' := by
    refine .of_forall₂ (.cons ⟨rfl, rfl, rfl, rfl, .some ?_⟩ .nil) rfl rfl rfl
    refine .cons ⟨hload _ _ (by decide) (by decide), rfl, rfl, rfl⟩ ?_
    exact Body.SimilarUpTo.refl .refl _
  have hhandler : g.SimilarUpTo Opcode.Interchangeable h := by
    refine ⟨rfl, .some (.cons ?_ (Body.SimilarUpTo.refl .refl _))⟩
    exact ⟨hload _ _ (by decide) (by decide), rfl, rfl, rfl⟩
  have hc : ∀ t ∈ c.templates, t.isInterchanged = true := by
    decide
  exact ⟨hstore, hc, hhandler,
    (resolveOne_interchangeable .standard hstore).1 c hc g h hhandler,
    by decide⟩

end Resolver

end HandlerRecognition
