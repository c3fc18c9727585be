import HandlerRecognition.Proofs.Matching.Placement

/-!
# Locating a template among all its positions

A template is located by a search over the positions that its anchor leaves, and
its positions are listed by a search over the whole body. The two searches run over
different ranges, and that of an anchor may end before the body, at its end or behind
it. `Anchor.select?` says what they have to do with each other: a scan selects the
first position of the list, and an anchor at a single position selects this position
if it is in the list.

An anchor may be fixed at the largest 64-bit index, where its range is empty. This
is not seen, because a body is not long enough to have a position there.

For templates that are tried at the first instruction only and for those that are
tried everywhere, it is said what a single position takes to be the located one.
-/

namespace HandlerRecognition

namespace Anchor

variable {a : Anchor} {positions : List Nat} {p q : Nat}

/-- Whether a position is one at which a template with the anchor may be
located. -/
def admits : Anchor → Nat → Bool
  | .start, p => p == 0
  | .fixed index, p => p == index.toNat
  | .scan, _ => true

/-- The one among ascending positions that the anchor selects. -/
def select? (positions : List Nat) : Anchor → Option Nat
  | .start => if 0 ∈ positions then some 0 else none
  | .fixed index =>
    if index.toNat ∈ positions then some index.toNat else none
  | .scan => positions.head?

/-- An anchor selects the first of the positions that it admits. -/
theorem le_of_select? (hascending : positions.Pairwise (· < ·))
    (hp : a.select? positions = some p) (hq : q ∈ positions)
    (hadmits : a.admits q = true) : p ≤ q := by
  cases a with
  | start =>
      obtain ⟨-, rfl⟩ : 0 ∈ positions ∧ 0 = p := by simpa [select?] using hp
      exact Nat.zero_le q
  | fixed index =>
      obtain ⟨-, rfl⟩ : index.toNat ∈ positions ∧ index.toNat = p := by
        simpa [select?] using hp
      exact Nat.le_of_eq (beq_iff_eq.mp hadmits).symm
  | scan =>
      obtain ⟨rest, rfl⟩ := List.head?_eq_some_iff.mp hp
      rcases List.mem_cons.mp hq with rfl | hrest
      · exact Nat.le_refl q
      · exact Nat.le_of_lt (List.rel_of_pairwise_cons hascending hrest)

section Search

variable {accepts : Nat → Bool} {n : Nat}

/-- A search at a single position finds it if it is among the accepted ones. -/
theorem find?_single (haccepts : ∀ p, accepts p = true → p < n) (p : Nat) :
    [p].find? accepts =
      if p ∈ (List.range n).filter accepts then some p else none := by
  have hmem : p ∈ (List.range n).filter accepts ↔ accepts p = true := by
    rw [List.mem_filter, List.mem_range]
    exact and_iff_right_of_imp (haccepts p)
  simp only [List.find?_singleton, hmem]

/-- The range of an anchor that is fixed inside a body is its position. Fixed at
the largest index, it has none. -/
theorem positions_span_fixed (index : UInt64) (n : Nat) :
    (span (.fixed index) n).positions =
      if index.toNat < lastIndex then [index.toNat] else [] := by
  rw [span, Span.positions, Span.count]
  by_cases hlast : index.toNat < lastIndex
  · rw [if_pos hlast]
    have hone : min (index.toNat + 1) lastIndex - index.toNat = 1 := by omega
    rw [hone]
    rfl
  · rw [if_neg hlast]
    have hzero : min (index.toNat + 1) lastIndex - index.toNat = 0 := by omega
    rw [hzero]
    rfl

/-- The search over the range of an anchor finds what the anchor selects from all
accepted positions. -/
theorem find?_span (a : Anchor) (hn : n < UInt64.size)
    (haccepts : ∀ p, accepts p = true → p < n) :
    (a.span n).positions.find? accepts =
      a.select? ((List.range n).filter accepts) := by
  cases a with
  | start => exact find?_single haccepts 0
  | fixed index =>
      rw [positions_span_fixed]
      by_cases hlast : index.toNat < lastIndex
      · rw [if_pos hlast]
        exact find?_single haccepts index.toNat
      · -- No position of the body is the largest index.
        have hnone : index.toNat ∉ (List.range n).filter accepts := by
          intro hmem
          have hlt := List.mem_range.mp (List.mem_filter.mp hmem).1
          have hle : n ≤ lastIndex := Nat.le_pred_of_lt hn
          omega
        rw [if_neg hlast, select?, if_neg hnone]
        rfl
  | scan =>
      rw [select?, List.head?_filter, List.range_eq_range']
      rfl

end Search

/-- A list of positions holds all that are accepted, in order, and the located
position is the one that the anchor selects from the list. -/
structure Selects (a : Anchor) (accepts : Nat → Bool) (positions : List Nat)
    (located? : Option Nat) : Prop where
  ascending : positions.Pairwise (· < ·)
  mem_iff (p : Nat) : p ∈ positions ↔ accepts p = true
  located : located? = a.select? positions
  /-- Nothing is accepted before it where the anchor admits it. -/
  first {p q : Nat} (hp : located? = some p) (hq : q < p)
    (hadmits : a.admits q = true) : accepts q = false

end Anchor

namespace Matcher

variable {t : Template} {body : Body}

/-- The positions of a template with slots are inside the body. -/
theorem lt_length_of_withShape {verifies : Matcher} {p : Nat}
    (hslots : 0 < t.length) (h : verifies.withShape t body p = true) :
    p < body.length := by
  have hroom := Template.add_length_le_of_fitsAt (fitsAt_of_withShape h)
  omega

theorem selects_locate? (verifies : Matcher) (hslots : 0 < t.length)
    (hbody : body.length < UInt64.size) :
    t.anchor.Selects (verifies.withShape t body) (verifies.positions t body)
      (verifies.locate? t body) := by
  have hascending : (verifies.positions t body).Pairwise (· < ·) :=
    List.pairwise_lt_range.filter _
  have hmem (p : Nat) : p ∈ verifies.positions t body ↔
      verifies.withShape t body p = true := by
    rw [mem_positions_iff]
    exact and_iff_right_of_imp (lt_length_of_withShape hslots)
  have hlocated : verifies.locate? t body =
      t.anchor.select? (verifies.positions t body) :=
    t.anchor.find?_span hbody fun _ => lt_length_of_withShape hslots
  refine ⟨hascending, hmem, hlocated, fun {p q} hp hq hadmits => ?_⟩
  rw [hlocated] at hp
  rw [Bool.eq_false_iff]
  intro haccepts
  have hle := Anchor.le_of_select? hascending hp ((hmem q).mpr haccepts) hadmits
  omega

end Matcher

namespace Environment

variable {env : Environment} {t : Template} {body : Body} {p : Nat}

/-- Nothing is located behind a position at which it is accepted. -/
theorem exists_locate?_le (hp : p ∈ (t.anchor.span body.length).positions)
    (haccepts : env.accepts t body p = true) :
    ∃ q ≤ p, env.locate? t body = some q := by
  have hsome : (env.locate? t body).isSome := by
    rw [locate?, List.find?_isSome]
    exact ⟨p, hp, haccepts⟩
  obtain ⟨q, hq⟩ := Option.isSome_iff_exists.mp hsome
  refine ⟨q, ?_, hq⟩
  obtain ⟨-, -, hfirst⟩ := List.find?_range'_eq_some.mp hq
  by_contra hlt
  have hreject := hfirst p (Span.mem_positions.mp hp).1 (Nat.lt_of_not_le hlt)
  simp [haccepts] at hreject

/-- A template that is tried at the first instruction only is located there. -/
theorem locate?_eq_some_iff_of_start (ht : t.anchor = .start) :
    env.locate? t body = some p ↔
      p = 0 ∧ t.fitsAt body 0 = true ∧ env.verifies t body 0 = true := by
  have hpositions : (t.anchor.span body.length).positions = [0] := by
    rw [ht]
    rfl
  have haccepts := env.accepts_eq t body 0
  rw [locate?, hpositions, ← Bool.and_eq_true, ← haccepts]
  cases h : env.accepts t body 0 <;> simp [h, eq_comm]

/-- A template that is tried everywhere is located where it is accepted
first. -/
theorem locate?_eq_some_iff_of_scan (ht : t.anchor = .scan) :
    env.locate? t body = some p ↔
      p < body.length ∧ env.accepts t body p = true ∧
        ∀ q < p, ¬ env.accepts t body q = true := by
  have hpositions : (t.anchor.span body.length).positions =
      List.range' 0 body.length := by
    rw [ht]
    rfl
  rw [locate?, hpositions, List.find?_range'_eq_some]
  simp [and_left_comm]

end Environment

namespace Template

/-- Locating a template with slots agrees with listing its positions, under every
anchor and whatever its verifier decides. The list is ascending and holds all
positions at which the template is accepted. A scan locates the first one of them.
An anchor at a single position, be it the largest index, locates this position if
it is in the list. The length of a body is a 64-bit number. -/
theorem locate?_selects (t : Template) (body : Body) (hslots : 0 < t.length)
    (hbody : body.length < UInt64.size) :
    (∀ env : Environment, t.anchor.Selects (env.accepts t body)
      (env.positions t body) (env.locate? t body)) ∧
    ∀ verifies : Matcher, t.anchor.Selects (verifies.withShape t body)
      (verifies.positions t body) (verifies.locate? t body) := by
  refine ⟨fun env => ?_, fun verifies => verifies.selects_locate? hslots hbody⟩
  rw [env.accepts_eq_withShape, env.positions_eq, env.locate?_eq]
  exact Matcher.selects_locate? _ hslots hbody

/-- A template with two positions, under anchors of each kind. The largest index
has a range without positions. -/
theorem locate?_selects_largest_index :
    let t (a : Anchor) : Template := (window "Dup" none [.dup]).anchored a
    let body : Body := [⟨0, .nop, .none⟩, ⟨1, .dup, .none⟩, ⟨2, .dup, .none⟩]
    let env : Environment := .top Builtin.catalog .empty
    let largest : UInt64 := .ofNat Anchor.lastIndex
    (∀ a, 0 < (t a).length) ∧ body.length < UInt64.size ∧
      ((Anchor.fixed largest).span body.length).positions = [] ∧
      env.locate? (t .scan) body = some 1 ∧
      env.locate? (t .start) body = none ∧
      env.locate? (t (.fixed 2)) body = some 2 ∧
      env.locate? (t (.fixed 3)) body = none ∧
      env.locate? (t (.fixed largest)) body = none ∧
      env.accepts (t .scan) body 0 = false := by
  intro t body env largest
  have hslots (a : Anchor) : 0 < (t a).length := Nat.one_pos
  have hbody : body.length < UInt64.size := by decide
  have hpositions (a : Anchor) : env.positions (t a) body = [1, 2] :=
    show env.positions (t .scan) body = [1, 2] by decide
  have hlocated (a : Anchor) : env.locate? (t a) body = a.select? [1, 2] := by
    have hselects := (locate?_selects (t a) body (hslots a) hbody).1 env
    rw [hselects.located, hpositions]
    rfl
  have hfirst := (locate?_selects (t .scan) body (hslots .scan) hbody).1 env
  exact ⟨hslots, hbody, by decide, hlocated .scan, hlocated .start,
    hlocated (.fixed 2), hlocated (.fixed 3), hlocated (.fixed largest),
    hfirst.first (hlocated .scan) Nat.one_pos rfl⟩

end Template

end HandlerRecognition
