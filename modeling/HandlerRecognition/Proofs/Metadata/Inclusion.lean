import HandlerRecognition.Proofs.Metadata.Consistency

/-!
# More records

A store with more records gives every answer that it gave before, because a
record is found under its own token only and no token occurs twice. An answer
that was missing may turn up.
-/

namespace HandlerRecognition

section Kept

variable {α β : Type} {a b : Option α}

/-- The second answer is the first one, if there is a first one. -/
def Kept (a b : Option α) : Prop :=
  ∀ x ∈ a, x ∈ b

theorem Kept.refl (a : Option α) : Kept a a :=
  fun _ hx => hx

theorem Kept.bind (h : Kept a b) {f g : α → Option β}
    (hfg : ∀ x, Kept (f x) (g x)) : Kept (a.bind f) (b.bind g) := by
  intro y hy
  obtain ⟨x, hx, hxy⟩ := Option.bind_eq_some_iff.mp hy
  exact Option.bind_eq_some_iff.mpr ⟨x, h x hx, hfg x y hxy⟩

theorem Kept.map (h : Kept a b) (f : α → β) : Kept (a.map f) (b.map f) := by
  intro y hy
  obtain ⟨x, hx, hxy⟩ := Option.map_eq_some_iff.mp hy
  exact Option.map_eq_some_iff.mpr ⟨x, h x hx, hxy⟩

theorem Kept.filter (h : Kept a b) (p : α → Bool) :
    Kept (a.filter p) (b.filter p) := by
  intro x hx
  rw [Option.mem_filter_iff] at hx ⊢
  exact ⟨h x hx.1, hx.2⟩

theorem Kept.any (h : Kept a b) {p q : α → Bool}
    (hpq : ∀ x, p x = true → q x = true) (ha : a.any p = true) :
    b.any q = true := by
  obtain ⟨x, hx, hp⟩ := (Option.any_eq_true p a).mp ha
  exact (Option.any_eq_true q b).mpr ⟨x, h x hx, hpq x hp⟩

end Kept

namespace Store

/-- Every record of the one store is in the other. A field may stand alone in
the one and be listed on a type in the other. -/
structure IncludedIn (s s' : Store) : Prop where
  methods : s.records.methods ⊆ s'.records.methods
  members : s.records.members ⊆ s'.records.members
  types : s.records.types ⊆ s'.records.types
  fields : s.records.fields ⊆ s'.records.fields

theorem includedIn_of_build {records records' : List Record} {s s' : Store}
    (hs : build records = .ok s) (hs' : build records' = .ok s')
    (h : records ⊆ records') : s.IncludedIn s' := by
  have hrecords : s.records = .ofList records := ofRecordSet_eq_ok_iff.mp hs
  have hrecords' : s'.records = .ofList records' := ofRecordSet_eq_ok_iff.mp hs'
  refine ⟨fun m hm => ?_, fun m hm => ?_, fun t ht => ?_, fun f hf => ?_⟩
  · rw [hrecords, RecordSet.mem_methods_ofList] at hm
    rw [hrecords', RecordSet.mem_methods_ofList]
    exact h hm
  · rw [hrecords, RecordSet.mem_members_ofList] at hm
    rw [hrecords', RecordSet.mem_members_ofList]
    exact h hm
  · rw [hrecords, RecordSet.mem_types_ofList] at ht
    rw [hrecords', RecordSet.mem_types_ofList]
    exact h ht
  · simp only [hrecords, hrecords', RecordSet.mem_fields,
      RecordSet.mem_types_ofList, RecordSet.mem_looseFields_ofList] at hf ⊢
    rcases hf with ⟨t, ht, hf⟩ | hf
    · exact Or.inl ⟨t, h ht, hf⟩
    · exact Or.inr (h hf)

namespace IncludedIn

variable {s s' : Store}

theorem method? (h : s.IncludedIn s') (t : Token) :
    Kept (s.method? t) (s'.method? t) := by
  intro m hm
  obtain ⟨hmem, htoken⟩ := method?_eq_some_iff.mp hm
  exact method?_eq_some_iff.mpr ⟨h.methods hmem, htoken⟩

theorem member? (h : s.IncludedIn s') (t : Token) :
    Kept (s.member? t) (s'.member? t) := by
  intro m hm
  obtain ⟨hmem, htoken⟩ := member?_eq_some_iff.mp hm
  exact member?_eq_some_iff.mpr ⟨h.members hmem, htoken⟩

theorem type? (h : s.IncludedIn s') (t : Token) :
    Kept (s.type? t) (s'.type? t) := by
  intro r hr
  obtain ⟨hmem, htoken⟩ := type?_eq_some_iff.mp hr
  exact type?_eq_some_iff.mpr ⟨h.types hmem, htoken⟩

theorem field? (h : s.IncludedIn s') (t : Token) :
    Kept (s.field? t) (s'.field? t) := by
  intro f hf
  obtain ⟨hmem, htoken⟩ := field?_eq_some_iff.mp hf
  exact field?_eq_some_iff.mpr ⟨h.fields hmem, htoken⟩

theorem body? (h : s.IncludedIn s') (t : Token) :
    Kept (s.body? t) (s'.body? t) :=
  (h.method? t).bind fun _ => .refl _

theorem baseOf? (h : s.IncludedIn s') (t : Token) :
    Kept (s.baseOf? t) (s'.baseOf? t) :=
  ((h.type? t).bind fun _ => .refl _).bind h.type?

end IncludedIn

end Store

end HandlerRecognition
