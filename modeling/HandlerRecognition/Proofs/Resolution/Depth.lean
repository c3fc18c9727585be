import HandlerRecognition.Proofs.Resolution.Comparison

/-!
# The bound on the depth

How deep verifiers may follow helpers decides how much is accepted, and nothing
else. A larger bound keeps every acceptance, so outcomes only grow. No chain of
delegations is longer than three, and none is longer than one where the built-in
templates are registered, so from there on the bound has no influence at all.
-/

namespace HandlerRecognition

namespace Resolver

variable {c : Catalog} {s : Store} {m m' : Nat} (isParallel isParallel' : Bool)

theorem resolveOne_grows_of_maxDepth_le (h : m ≤ m') (g : Handler) :
    ((Resolver.mk c s ⟨isParallel, m⟩).resolveOne g).Grows
      ((Resolver.mk c s ⟨isParallel', m'⟩).resolveOne g) := by
  refine resolveOne_grows (List.Subset.refl c.bound) ?_ g
  exact ⟨rfl, .refl c, h⟩

/-- A bound on the depth that no chain reaches has no influence. -/
theorem resolve_eq_of_endsAfter_le {limit : Nat}
    (hlimit : ∀ {n : Nat} {t : Template}, c.EndsAfter n t → n ≤ limit)
    (hm : limit ≤ m) (hm' : limit ≤ m') (handlers : List Handler) :
    (Resolver.mk c s ⟨isParallel, m⟩).resolve handlers =
      (Resolver.mk c s ⟨isParallel', m'⟩).resolve handlers := by
  refine resolve_congr (fun g => resolveOne_congr ?_ ?_ g) handlers
  · rfl
  · refine Environment.accepts_eq_of_extendedBy ?_ (.refl c) (.refl c) ?_
    · rfl
    · intro n t hends
      have hn : n ≤ limit := hlimit hends
      exact ⟨fun _ => hn.trans hm', fun _ => hn.trans hm⟩

/-- A larger bound on the depth keeps every acceptance, so a handler stays bound
to its opcode unless it becomes ambiguous with it. All bounds from three on lead
to the same resolution, and all bounds from one on where the built-in templates
are registered. -/
theorem resolve_maxDepth (c : Catalog) (s : Store) :
    (∀ {m m' : Nat}, m ≤ m' → ∀ (t : Template) (body : Body) (start : Nat),
      ((Environment.top c s).withMaxDepth m).accepts t body start = true →
        ((Environment.top c s).withMaxDepth m').accepts t body start = true) ∧
      (∀ {m m' : Nat}, m ≤ m' → ∀ (isParallel isParallel' : Bool) (g : Handler),
        ((Resolver.mk c s ⟨isParallel, m⟩).resolveOne g).Grows
          ((Resolver.mk c s ⟨isParallel', m'⟩).resolveOne g)) ∧
      (∀ {m m' : Nat}, 3 ≤ m → 3 ≤ m' →
        ∀ (isParallel isParallel' : Bool) (handlers : List Handler),
          (Resolver.mk c s ⟨isParallel, m⟩).resolve handlers =
            (Resolver.mk c s ⟨isParallel', m'⟩).resolve handlers) ∧
      (Builtin.templates ⊆ c.templates → ∀ {m m' : Nat}, 1 ≤ m → 1 ≤ m' →
        ∀ (isParallel isParallel' : Bool) (handlers : List Handler),
          (Resolver.mk c s ⟨isParallel, m⟩).resolve handlers =
            (Resolver.mk c s ⟨isParallel', m'⟩).resolve handlers) := by
  refine ⟨?_, ?_, ?_, ?_⟩
  · intro m m' h t body start haccepts
    have henv : ((Environment.top c s).withMaxDepth m).ExtendedBy
        ((Environment.top c s).withMaxDepth m') := ⟨rfl, .refl c, h⟩
    exact henv.accepts haccepts
  · intro m m' h isParallel isParallel' g
    exact resolveOne_grows_of_maxDepth_le isParallel isParallel' h g
  · intro m m' hm hm' isParallel isParallel' handlers
    exact resolve_eq_of_endsAfter_le isParallel isParallel'
      Catalog.EndsAfter.le_three hm hm' handlers
  · intro hc m m' hm hm' isParallel isParallel' handlers
    exact resolve_eq_of_endsAfter_le isParallel isParallel'
      (Catalog.EndsAfter.le_one hc) hm hm' handlers

/-- Three delegations in a row, the last two of which demand exactly one
occurrence. A bound of two cuts the chain short, and a bound of three does not. -/
theorem resolve_maxDepth_three_delegations :
    let calls (row : UInt32) : Body := [⟨0, .ldarg0, .none⟩,
      ⟨1, .callvirt, .token (.ofParts Token.methodTable row)⟩]
    let method (row : UInt32) (body : Body) : Record :=
      .method ⟨.ofParts Token.methodTable row, "", none, ⟨none, []⟩, some body⟩
    let link (name : String) (target? : Option Opcode) (d : Delegation) :
        Template :=
      (Template.window name target? [.ldarg0, .callvirt]).verifiedBy
        (.delegation d)
    let c : Catalog := ⟨[link "Outer" (some .nop) .endsInterpreter,
      link Builtin.enableReturnName none .readsTopOnce,
      link Builtin.peekStackName none .takesTopOnce,
      Template.window Builtin.popStackName none [.ret]], by decide⟩
    let s : Store := ⟨.ofList [method 1 (calls 2), method 2 (calls 3),
      method 3 [⟨0, .ret, .none⟩]], by decide⟩
    let g : Handler := ⟨⟨7⟩, some (calls 1)⟩
    let r (maxDepth : Nat) : Resolver := ⟨c, s, ⟨true, maxDepth⟩⟩
    (r 2).resolveOne g = .unresolved (.rejected ["Outer"]) ∧
      (r 3).resolveOne g = .bound ⟨⟨7⟩, .nop, "Outer", 0, true⟩ ∧
      ((r 2).resolveOne g).Grows ((r 3).resolveOne g) ∧
      (r 3).resolve [g] = (r 1000).resolve [g] := by
  intro calls method link c s g r
  obtain ⟨-, hgrows, hthree, -⟩ := resolve_maxDepth c s
  exact ⟨by decide, by decide, hgrows (by decide) true true g,
    hthree (by decide) (by decide) true true [g]⟩

end Resolver

end HandlerRecognition
