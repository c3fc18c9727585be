import HandlerRecognition.Proofs.Matching.Chain
import HandlerRecognition.Proofs.Matching.Placement
import HandlerRecognition.Proofs.Resolution.Trials
import Mathlib.Data.List.Perm.Subperm

/-!
# What the outcome of a handler says

`Outcome.Follows` describes the outcome of a body without any search loop. The
templates that can bind a handler and are located in the body decide: several
targets make it ambiguous, a single one binds it to the first of the templates,
and if there is none, the templates whose shape fits somewhere are named.

This is so for every handler, and for every decision on verifiers, not only for
the one of `Environment.verifies`. Templates that cannot bind a handler have no
say in it, except where a verifier looks them up.
-/

namespace HandlerRecognition

namespace Catalog

/-- The templates that can bind a handler and are located in a body, in
order. -/
def located (c : Catalog) (locate? : Template → Body → Option Nat)
    (body : Body) : List Template :=
  c.bound.filter fun t => (locate? t body).isSome

/-- The targets of the located templates, without repetition, in opcode
order. -/
def locatedTargets (c : Catalog) (locate? : Template → Body → Option Nat)
    (body : Body) : List Opcode :=
  Opcode.sorted ((c.located locate? body).filterMap Template.target?)

/-- The templates that can bind a handler and whose shape fits somewhere, in
order. -/
def shaped (c : Catalog) (body : Body) : List Template :=
  c.bound.filter fun t => t.fitsSomewhere body

theorem located_sublist_shaped (c : Catalog) (verifies : Matcher)
    (body : Body) :
    (c.located verifies.locate? body).Sublist (c.shaped body) :=
  List.monotone_filter_right _ fun _ h => Matcher.fitsSomewhere_of_locate? h

theorem length_locatedTargets_le (c : Catalog)
    (locate? : Template → Body → Option Nat) (body : Body) :
    (c.locatedTargets locate? body).length ≤ (c.located locate? body).length := by
  have hsubset : c.locatedTargets locate? body ⊆
      (c.located locate? body).filterMap Template.target? :=
    fun o ho => Opcode.mem_sorted.mp ho
  have hsubperm := List.Nodup.subperm (Opcode.nodup_sorted _) hsubset
  exact Nat.le_trans hsubperm.length_le (List.length_filterMap_le _ _)

end Catalog

/-- The outcome of a body that is not empty, said by what is located in it. -/
structure Outcome.Follows (c : Catalog)
    (locate? : Template → Body → Option Nat) (id : HandlerId) (body : Body)
    (outcome : Outcome) : Prop where
  ambiguous (opcodes : List Opcode) :
    outcome = .ambiguous opcodes ↔
      2 ≤ opcodes.length ∧ opcodes = c.locatedTargets locate? body
  /-- The binding is to the only target, by the first located template. -/
  bound (b : Binding) :
    outcome = .bound b ↔
      ∃ t rest, c.located locate? body = t :: rest ∧
        c.locatedTargets locate? body = [b.opcode] ∧
        locate? t body = some b.position ∧ b.handler = id ∧
        b.template = t.name ∧ b.isVerified = t.isVerified
  rejected (names : List String) :
    outcome = .unresolved (.rejected names) ↔
      c.located locate? body = [] ∧ names ≠ [] ∧
        names = (c.shaped body).map Template.name
  noMatch :
    outcome = .unresolved .noMatch ↔
      c.located locate? body = [] ∧ c.shaped body = []

/-- The outcome of a handler, said by what is located in its body. -/
def Handler.Follows (c : Catalog) (locate? : Template → Body → Option Nat)
    (h : Handler) (outcome : Outcome) : Prop :=
  match h.body? with
  | none => outcome = .unresolved .missingBody
  | some [] => outcome = .unresolved .emptyBody
  | some (i :: is) => Outcome.Follows c locate? h.id (i :: is) outcome

/-- The outcome of a handler with a body that is not empty is said by what is
located in it. -/
theorem Handler.Follows.cases {c : Catalog}
    {locate? : Template → Body → Option Nat} {h : Handler} {outcome : Outcome}
    (hfollows : h.Follows c locate? outcome) :
    outcome = .unresolved .missingBody ∨ outcome = .unresolved .emptyBody ∨
      ∃ body, Outcome.Follows c locate? h.id body outcome := by
  rw [Handler.Follows] at hfollows
  split at hfollows
  · exact Or.inl hfollows
  · exact Or.inr (Or.inl hfollows)
  · exact Or.inr (Or.inr ⟨_, hfollows⟩)

/-- A list with less than two members has no member besides a given one. -/
theorem eq_singleton_of_mem {α : Type} {l : List α} {a : α} (ha : a ∈ l)
    (h : l.length < 2) : l = [a] := by
  match l with
  | [] => simp at ha
  | [b] => simp_all
  | _ :: _ :: rest =>
      rw [List.length_cons, List.length_cons] at h
      omega

namespace Outcome

section Follows

variable {c : Catalog} {locate? : Template → Body → Option Nat}
  {id : HandlerId} {body : Body}

theorem locatedTargets_of_located_eq_nil (h : c.located locate? body = []) :
    c.locatedTargets locate? body = [] := by
  simp [Catalog.locatedTargets, h, Opcode.sorted]

theorem follows_ambiguous
    (h : 2 ≤ (c.locatedTargets locate? body).length) :
    Follows c locate? id body (.ambiguous (c.locatedTargets locate? body)) := by
  have hlocated : c.located locate? body ≠ [] := by
    intro hnil
    simp [locatedTargets_of_located_eq_nil hnil] at h
  refine ⟨fun opcodes => ?_, fun b => ?_, fun names => ?_, ?_⟩
  · rw [ambiguous.injEq]
    constructor
    · intro hopcodes
      subst hopcodes
      exact ⟨h, rfl⟩
    · intro hopcodes
      exact hopcodes.2.symm
  · simp only [reduceCtorEq, false_iff]
    intro hbound
    obtain ⟨t, rest, -, hone, -⟩ := hbound
    simp [hone] at h
  · simp [hlocated]
  · simp [hlocated]

theorem follows_bound {t : Template} {rest : List Template} {target : Opcode}
    {position : Nat} (hlocated : c.located locate? body = t :: rest)
    (htargets : c.locatedTargets locate? body = [target])
    (hposition : locate? t body = some position) :
    Follows c locate? id body
      (.bound ⟨id, target, t.name, position, t.isVerified⟩) := by
  refine ⟨fun opcodes => ?_, fun b => ?_, fun names => ?_, ?_⟩
  · simp only [reduceCtorEq, false_iff]
    intro hambiguous
    obtain ⟨htwo, rfl⟩ := hambiguous
    simp [htargets] at htwo
  · rw [bound.injEq]
    constructor
    · intro hb
      subst hb
      exact ⟨t, rest, hlocated, htargets, hposition, rfl, rfl, rfl⟩
    · intro hb
      obtain ⟨t', rest', hcons, hone, hat, hid, hname, hverified⟩ := hb
      obtain ⟨rfl, rfl⟩ := List.cons.inj (hlocated.symm.trans hcons)
      obtain ⟨id', opcode, name, at', isVerified⟩ := b
      simp_all
  · simp [hlocated]
  · simp [hlocated]

theorem follows_unresolved {reason : Reason}
    (hlocated : c.located locate? body = [])
    (hrejected : ∀ names, reason = .rejected names ↔
      names ≠ [] ∧ names = (c.shaped body).map Template.name)
    (hnoMatch : reason = .noMatch ↔ c.shaped body = []) :
    Follows c locate? id body (.unresolved reason) := by
  refine ⟨fun opcodes => ?_, fun b => ?_, fun names => ?_, ?_⟩
  · simp only [reduceCtorEq, false_iff,
      locatedTargets_of_located_eq_nil hlocated]
    intro hambiguous
    obtain ⟨htwo, rfl⟩ := hambiguous
    simp at htwo
  · simp [hlocated]
  · simp [hlocated, hrejected]
  · simp [hlocated, hnoMatch]

end Follows

/-- The outcome of trials says what is located. -/
theorem ofTrials_follows (verifies : Matcher) (c : Catalog) (id : HandlerId)
    (body : Body) :
    Follows c verifies.locate? id body
      (.ofTrials id (verifies.trials body c.bound)) := by
  have hbound : ∀ t ∈ c.bound, t.target?.isSome :=
    fun _ => Catalog.isSome_target?_of_mem_bound
  have hrel : List.Forall₂ (verifies.Locates body)
      (Trial.candidates (verifies.trials body c.bound))
      (c.located verifies.locate? body) :=
    verifies.forall₂_candidates body hbound
  have htargets : Trial.targets (verifies.trials body c.bound) =
      c.locatedTargets verifies.locate? body := by
    rw [Trial.targets, Catalog.locatedTargets,
      verifies.targets_of_forall₂ body hrel]
  have hrefused (hnil : Trial.candidates (verifies.trials body c.bound) = []) :
      c.located verifies.locate? body = [] ∧
        Trial.refusedNames (verifies.trials body c.bound) =
          (c.shaped body).map Template.name := by
    have hlocated : c.located verifies.locate? body = [] := by
      rw [hnil] at hrel
      exact List.forall₂_nil_left_iff.mp hrel
    refine ⟨hlocated, verifies.refusedNames_eq body hbound fun t ht => ?_⟩
    simpa using List.filter_eq_nil_iff.mp hlocated t ht
  rcases ofTrials_cases id (verifies.trials body c.bound) with
    ⟨htwo, ho⟩ | ⟨candidate, cs, hc, hone, ho⟩ | ⟨hnil, hnames, ho⟩ |
      ⟨hnil, hnames, ho⟩ <;> rw [ho]
  · rw [htargets] at htwo ⊢
    exact follows_ambiguous htwo
  · have hmem : candidate.target ∈
        Trial.targets (verifies.trials body c.bound) := by
      simp [Trial.targets, hc]
    rw [hc] at hrel
    obtain ⟨t, rest, hct, -, hlocated⟩ := List.forall₂_cons_left_iff.mp hrel
    rw [hct.template]
    exact follows_bound hlocated
      (htargets ▸ eq_singleton_of_mem hmem hone) hct.position
  · obtain ⟨hlocated, heq⟩ := hrefused hnil
    rw [heq] at hnames
    refine follows_unresolved hlocated (fun names => ?_) ?_
    · simp only [reduceCtorEq, hnames, false_iff]
      intro h
      exact h.1 h.2
    · simpa using hnames
  · obtain ⟨hlocated, heq⟩ := hrefused hnil
    rw [heq] at hnames ⊢
    refine follows_unresolved hlocated (fun names => ?_) ?_
    · rw [Reason.rejected.injEq]
      constructor
      · intro heq
        subst heq
        exact ⟨hnames, rfl⟩
      · intro h
        exact h.2.symm
    · simpa using hnames

end Outcome

namespace Resolver

/-- The resolver with other templates. -/
def withCatalog (r : Resolver) (c : Catalog) : Resolver :=
  { r with catalog := c }

/-- The outcome under any decision on verifiers says what is located under this
decision. -/
theorem resolveOneBy_follows (r : Resolver) (verifies : Environment → Matcher)
    (h : Handler) :
    h.Follows r.catalog (verifies r.environment).locate?
      (r.resolveOneBy verifies h) := by
  obtain ⟨id, body?⟩ := h
  cases body? with
  | none => rfl
  | some body =>
      cases body with
      | nil => rfl
      | cons i is => exact Outcome.ofTrials_follows _ _ _ _

theorem follows_locate? (r : Resolver) (h : Handler) :
    h.Follows r.catalog r.environment.locate? (r.resolveOne h) := by
  rw [Environment.locate?_eq]
  exact r.resolveOneBy_follows Environment.verifies h

/-- Only the templates that can bind a handler are tried. -/
theorem resolveOneBy_withCatalog (r : Resolver) {c : Catalog}
    (hbound : c.bound = r.catalog.bound) {verifies : Environment → Matcher}
    (hverifies : ∀ t ∈ c.bound,
      verifies (r.withCatalog c).environment t = verifies r.environment t)
    (h : Handler) :
    (r.withCatalog c).resolveOneBy verifies h = r.resolveOneBy verifies h := by
  have htrials (body : Body) :
      (r.withCatalog c).trialsBy verifies body = r.trialsBy verifies body := by
    rw [trialsBy, trialsBy, Matcher.trials, Matcher.trials, ← hbound]
    refine List.filterMap_congr fun t ht => ?_
    rw [Matcher.attempt_congr rfl rfl (congrFun (hverifies t ht) body)]
  simp only [resolveOneBy, htrials]

/-- The outcome of a handler says what is located in its body, and would under
any other decision on verifiers. A change of internal templates changes no
outcome unless it changes what a verifier decides, and of the verifiers at hand
only a delegation can decide otherwise. -/
theorem resolveOne_follows (r : Resolver) (h : Handler) :
    h.Follows r.catalog r.environment.locate? (r.resolveOne h) ∧
      (∀ verifies : Environment → Matcher,
        h.Follows r.catalog (verifies r.environment).locate?
          (r.resolveOneBy verifies h)) ∧
      ∀ c : Catalog, c.bound = r.catalog.bound →
        (∀ verifies : Environment → Matcher,
          (∀ t ∈ c.bound, verifies (r.withCatalog c).environment t =
            verifies r.environment t) →
          (r.withCatalog c).resolveOneBy verifies h =
            r.resolveOneBy verifies h) ∧
        ((∀ t ∈ c.bound, ∀ d, t.verifier? = some (.delegation d) →
            (r.withCatalog c).environment.verifies t =
              r.environment.verifies t) →
          (r.withCatalog c).resolveOne h = r.resolveOne h) := by
  refine ⟨r.follows_locate? h, fun verifies => r.resolveOneBy_follows verifies h,
    ?_⟩
  intro c hbound
  refine ⟨fun verifies hverifies => ?_, fun hdelegation => ?_⟩
  · exact r.resolveOneBy_withCatalog hbound hverifies h
  · refine r.resolveOneBy_withCatalog hbound (fun t ht => ?_) h
    by_cases hd : ∃ d, t.verifier? = some (.delegation d)
    · obtain ⟨d, hd⟩ := hd
      exact hdelegation t ht d hd
    · have hstore : (r.withCatalog c).environment.store =
          r.environment.store := rfl
      exact Environment.verifies_eq_of_store_eq hstore fun d h => hd ⟨d, h⟩

/-- A wrapper of unknown type is refused, with or without an internal
template. -/
theorem resolveOne_follows_refused :
    let whole : Catalog := ⟨[Builtin.peekStack, Builtin.ldnull], by decide⟩
    let rest : Catalog := ⟨[Builtin.ldnull], by decide⟩
    let wrapper : Handler := ⟨⟨3⟩, some [⟨0, .ldarg0, .none⟩,
      ⟨1, .newobj, .none⟩, ⟨6, .callvirt, .none⟩, ⟨11, .ret, .none⟩]⟩
    let r := Resolver.new whole .empty
    r.resolveOne wrapper = .unresolved (.rejected [Builtin.ldnullName]) ∧
      (r.withCatalog rest).resolveOne wrapper = r.resolveOne wrapper := by
  intro whole rest wrapper r
  refine ⟨by decide, ((resolveOne_follows r wrapper).2.2 rest
    (by decide)).2 fun t ht d hd => ?_⟩
  obtain rfl : t = Builtin.ldnull :=
    List.mem_singleton.mp (List.mem_filter.mp ht).1
  simp [Builtin.ldnull, Template.verifiedBy] at hd

end Resolver

end HandlerRecognition
