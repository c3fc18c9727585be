import HandlerRecognition.Proofs.Matching.Explicit
import HandlerRecognition.Proofs.Matching.Location

/-!
# Two questions about a helper

A verifier may ask whether a template is accepted at the first instruction of a
helper method, and at how many of its instructions the template is accepted. Both
questions go to the same helper (`Site.Reaches`): the template must be known, the
instruction must call a method of this module that has a body, and the depth must
allow one more level. Where one of these is missing there is no count, and the
first question is answered with no.

Where there is a helper, the count is the number of its positions at which the
template is accepted, and the first question asks whether position 0 is one of
them. A helper without instructions has no positions, and a template that has slots
is not accepted at its end. What verifiers decide one level deeper is left open.
-/

namespace HandlerRecognition

namespace Environment

/-- The environment one level deeper, whatever the bound. -/
def below (env : Environment) : Environment :=
  { env with depth := env.depth + 1 }

/-- Whether a template is accepted at a position of a body, under a decision on
verifiers. -/
def acceptsUnder (verifies : Environment → Matcher) (env : Environment) :
    Matcher :=
  (verifies env).withShape

theorem accepts_eq_acceptsUnder : accepts = acceptsUnder verifies := by
  funext env
  exact env.accepts_eq_withShape

end Environment

namespace Site

open Environment (acceptsUnder)

variable {s : Site} {offset : Nat} {name : String} {u : Template}
  {helper : Body}

/-- The instruction at an offset calls a helper in which the named template can be
tried. -/
structure Reaches (s : Site) (offset : Nat) (name : String) (u : Template)
    (helper : Body) : Prop where
  template : u ∈ s.env.catalog.templates
  named : u.name = name
  calls : s.env.store.Calls s.body (s.start + offset) helper
  depth : s.env.depth < s.env.maxDepth

theorem reaches_iff :
    s.Reaches offset name u helper ↔
      s.helper? offset name = some (u, helper) ∧
        s.env.descend? = some s.env.below := by
  rw [helper?_eq_some_iff, Catalog.find?_eq_some_iff,
    Environment.descend?_eq_some_iff]
  constructor
  · rintro ⟨hu, hname, hcalls, hdepth⟩
    exact ⟨⟨⟨hu, hname⟩, hcalls⟩, hdepth, rfl⟩
  · rintro ⟨⟨⟨hu, hname⟩, hcalls⟩, hdepth, -⟩
    exact ⟨hu, hname, hcalls, hdepth⟩

theorem Reaches.eq_of_named {u' : Template} (h : s.Reaches offset name u helper)
    (hu' : u' ∈ s.env.catalog.templates) (hname : u'.name = name) : u' = u := by
  have hfind := Catalog.find?_eq_some_iff.mpr ⟨h.template, h.named⟩
  have hfind' := Catalog.find?_eq_some_iff.mpr ⟨hu', hname⟩
  exact Option.some.inj (hfind'.symm.trans hfind)

/-- The positions of a helper at which a template is accepted one level
deeper. -/
def occurrences (s : Site) (accepts : Environment → Matcher) (u : Template)
    (helper : Body) : Finset Nat :=
  (Finset.range helper.length).filter fun p =>
    accepts s.env.below u helper p = true

section Accepts

variable {accepts : Environment → Matcher}

/-- Without a helper there are no answers. -/
theorem reaches_or_none (s : Site) (accepts : Environment → Matcher)
    (offset : Nat) (name : String) :
    (∃ u helper, s.Reaches offset name u helper) ∨
      s.delegatesToBy (s.env.descend?.map accepts) offset name = false ∧
        s.occurrencesBy (s.env.descend?.map accepts) offset name = none := by
  cases hhelper : s.helper? offset name with
  | none => simp [delegatesToBy, occurrencesBy, hhelper]
  | some a =>
      obtain ⟨u, helper⟩ := a
      cases hdeeper : s.env.descend? with
      | none => simp [delegatesToBy, occurrencesBy, hhelper]
      | some deeper =>
          obtain ⟨hdepth, rfl⟩ := Environment.descend?_eq_some_iff.mp hdeeper
          exact Or.inl ⟨u, helper, reaches_iff.mpr ⟨hhelper, hdeeper⟩⟩

theorem Reaches.delegatesToBy_eq (h : s.Reaches offset name u helper) :
    s.delegatesToBy (s.env.descend?.map accepts) offset name =
      accepts s.env.below u helper 0 := by
  obtain ⟨hhelper, hdeeper⟩ := reaches_iff.mp h
  exact Site.delegatesToBy_eq hhelper hdeeper

theorem Reaches.occurrencesBy_eq (h : s.Reaches offset name u helper) :
    s.occurrencesBy (s.env.descend?.map accepts) offset name =
      some (s.occurrences accepts u helper).card := by
  obtain ⟨hhelper, hdeeper⟩ := reaches_iff.mp h
  rw [Site.occurrencesBy_eq hhelper hdeeper, occurrences, card_filter_range]

/-- There is a count exactly where there is a helper. -/
theorem occurrencesBy_eq_some_iff {k : Nat} :
    s.occurrencesBy (s.env.descend?.map accepts) offset name = some k ↔
      ∃ u helper, s.Reaches offset name u helper ∧
        (s.occurrences accepts u helper).card = k := by
  constructor
  · intro h
    rcases s.reaches_or_none accepts offset name with
      ⟨u, helper, hreaches⟩ | ⟨-, hnone⟩
    · rw [hreaches.occurrencesBy_eq] at h
      exact ⟨u, helper, hreaches, Option.some.inj h⟩
    · rw [hnone] at h
      cases h
  · rintro ⟨u, helper, hreaches, rfl⟩
    exact hreaches.occurrencesBy_eq

end Accepts

section Verifiers

variable {verifies : Environment → Matcher}

/-- A template with slots is not accepted at the end of a helper. -/
theorem zero_mem_occurrences_iff (hslots : 0 < u.length) :
    0 ∈ s.occurrences (acceptsUnder verifies) u helper ↔
      acceptsUnder verifies s.env.below u helper 0 = true := by
  rw [occurrences, Finset.mem_filter, Finset.mem_range]
  exact and_iff_right_of_imp (Matcher.lt_length_of_withShape hslots)

theorem delegatesToBy_iff :
    s.delegatesToBy (s.env.descend?.map (acceptsUnder verifies)) offset name =
        true ↔
      ∃ u helper, s.Reaches offset name u helper ∧
        0 ∈ s.occurrences (acceptsUnder verifies) u helper := by
  constructor
  · intro h
    rcases s.reaches_or_none (acceptsUnder verifies) offset name with
      ⟨u, helper, hreaches⟩ | ⟨hnone, -⟩
    · rw [hreaches.delegatesToBy_eq] at h
      have hslots := Catalog.length_pos_of_mem hreaches.template
      exact ⟨u, helper, hreaches, (zero_mem_occurrences_iff hslots).mpr h⟩
    · rw [hnone] at h
      cases h
  · rintro ⟨u, helper, hreaches, hmem⟩
    have hslots := Catalog.length_pos_of_mem hreaches.template
    rw [hreaches.delegatesToBy_eq]
    exact (zero_mem_occurrences_iff hslots).mp hmem

theorem card_occurrences_le_one (hextent : u.extent = .entire) :
    (s.occurrences (acceptsUnder verifies) u helper).card ≤ 1 := by
  rw [occurrences, card_filter_range, List.countP_eq_length_filter]
  exact (((verifies s.env.below).limits_positions u helper).entire hextent).1

end Verifiers

/-- The answers to both questions fit together. -/
structure Agrees (s : Site) (offset : Nat) (name : String)
    (accepts : Environment → Matcher) (delegates : Bool)
    (count? : Option Nat) : Prop where
  /-- There is a count exactly where there is a helper, and it counts. -/
  count?_iff (k : Nat) :
    count? = some k ↔ ∃ u helper, s.Reaches offset name u helper ∧
      (s.occurrences accepts u helper).card = k
  /-- The first position is among the counted ones. -/
  delegates_iff :
    delegates = true ↔ ∃ k u helper, count? = some k ∧
      s.Reaches offset name u helper ∧ 0 ∈ s.occurrences accepts u helper
  one_le (h : delegates = true) : ∃ k, count? = some k ∧ 1 ≤ k
  refuses (h : count? = none) : delegates = false
  /-- A template that covers the rest of a helper is counted once at most. -/
  le_one {u : Template} {k : Nat} (hu : u ∈ s.env.catalog.templates)
    (hname : u.name = name) (hextent : u.extent = .entire)
    (hcount : count? = some k) : k ≤ 1

theorem agrees_acceptsUnder (s : Site) (verifies : Environment → Matcher)
    (offset : Nat) (name : String) :
    s.Agrees offset name (acceptsUnder verifies)
      (s.delegatesToBy (s.env.descend?.map (acceptsUnder verifies)) offset name)
      (s.occurrencesBy (s.env.descend?.map (acceptsUnder verifies)) offset
        name) where
  count?_iff _ := occurrencesBy_eq_some_iff
  delegates_iff := by
    rw [delegatesToBy_iff]
    constructor
    · rintro ⟨u, helper, hreaches, hmem⟩
      exact ⟨_, u, helper, hreaches.occurrencesBy_eq, hreaches, hmem⟩
    · rintro ⟨-, u, helper, -, hreaches, hmem⟩
      exact ⟨u, helper, hreaches, hmem⟩
  one_le h := by
    obtain ⟨u, helper, hreaches, hmem⟩ := delegatesToBy_iff.mp h
    exact ⟨_, hreaches.occurrencesBy_eq, Finset.card_pos.mpr ⟨0, hmem⟩⟩
  refuses h := by
    rw [Bool.eq_false_iff]
    intro hdelegates
    obtain ⟨u, helper, hreaches, -⟩ := delegatesToBy_iff.mp hdelegates
    rw [hreaches.occurrencesBy_eq] at h
    cases h
  le_one {u k} hu hname hextent hcount := by
    obtain ⟨u', helper, hreaches, rfl⟩ := occurrencesBy_eq_some_iff.mp hcount
    obtain rfl := hreaches.eq_of_named hu hname
    exact card_occurrences_le_one hextent

/-- Asking for a template at the first instruction of a helper agrees with counting
where in the helper it is accepted. This is so at every site and depth, and whatever
verifiers decide one level deeper. -/
theorem delegatesTo_agrees_occurrencesIn (s : Site) (offset : Nat)
    (name : String) :
    s.Agrees offset name Environment.accepts (s.delegatesTo offset name)
      (s.occurrencesIn offset name) ∧
    ∀ verifies : Environment → Matcher,
      s.Agrees offset name (acceptsUnder verifies)
        (s.delegatesToBy (s.env.descend?.map (acceptsUnder verifies)) offset name)
        (s.occurrencesBy (s.env.descend?.map (acceptsUnder verifies)) offset
          name) := by
  refine ⟨?_, fun verifies => s.agrees_acceptsUnder verifies offset name⟩
  rw [delegatesTo, occurrencesIn, Environment.deeper?,
    Environment.accepts_eq_acceptsUnder]
  exact s.agrees_acceptsUnder Environment.verifies offset name

/-- A template that covers the rest of a helper may be accepted behind its first
instruction only. It is counted there. -/
example :
    let callee : Token := .ofParts Token.methodTable 1
    let helper : Body := [⟨0, .nop, .none⟩, ⟨1, .ret, .none⟩]
    let store : Store :=
      ⟨.ofList [.method ⟨callee, "", none, ⟨none, []⟩, some helper⟩], by decide⟩
    let c : Catalog := ⟨[Template.entire "Tail" none [.ret]], by decide⟩
    let s : Site := ⟨.top c store, [⟨0, .call, .token callee⟩], 0⟩
    s.delegatesTo 0 "Tail" = false ∧ s.occurrencesIn 0 "Tail" = some 1 := by
  decide

end Site

end HandlerRecognition
