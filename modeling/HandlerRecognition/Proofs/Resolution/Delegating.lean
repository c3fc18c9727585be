import HandlerRecognition.Proofs.Resolution.Binding

/-!
# What the templates of `ret`, `dup` and `pop` say

The templates of `ret`, `dup` and `pop` list the opcodes of the whole body, and
their verifiers delegate to an internal template that only looks up metadata. A
handler is bound to one of these opcodes exactly if its body has the opcodes of
the template, it may be followed into a helper, and the helper that the second
instruction calls sets the flag, or accesses the stack once.
-/

namespace HandlerRecognition

namespace Builtin

section Bound

variable {s : Store} {config : Config} {id : HandlerId} {body : Body}
  {t : Template} {target : Opcode}

/-- What it takes to be bound to the target of a template that lists the opcodes
of the whole body and has a verifier that delegates. -/
theorem exists_bound_iff_of_delegation {d : Delegation} {u : Template}
    {i : Inspection} {opcodes : List Opcode} {P : Body → Prop}
    (ht : t ∈ catalog.bound) (htarget : t.target? = some target)
    (hanchor : t.anchor = .start) (hextent : t.extent = .entire)
    (hslots : t.slots = opcodes.map .exact)
    (hd : t.verifier? = some (.delegation d))
    (hu : catalog.find? d.templateName = some u)
    (hi : u.verifier? = some (.inspection i))
    (hmet : ∀ env : Environment, env.store = s → ∀ helper,
      d.demand.IsMetBy (fun p => u.fitsAt helper p = true ∧
        i.holds ⟨env, helper, p⟩ = true) helper ↔ P helper) :
    (∃ b, (Resolver.mk catalog s config).resolveOne ⟨id, some body⟩ =
        .bound b ∧ b.opcode = target) ↔
      1 ≤ config.maxDepth ∧ body.opcodes = opcodes ∧
        ∃ helper, s.Calls body d.offset helper ∧ P helper := by
  let env : Environment := (Resolver.mk catalog s config).environment
  have hverifies : env.verifies t body 0 = true ↔
      0 < config.maxDepth ∧
        ∃ helper, s.Calls body d.offset helper ∧ P helper := by
    rw [Environment.verifies_of_delegation hd,
      d.holdsBy_iff (s := ⟨env, body, 0⟩) hu hi, Nat.zero_add]
    simp only [hmet env rfl]
    rfl
  rw [exists_bound_iff_of_entire ht htarget hanchor hextent hslots, hverifies]
  exact and_left_comm

end Bound

end Builtin

namespace Store

/-- The token of a method, of this module or of another, that has a name and
returns a value. -/
def IsGetter (s : Store) (name : String) (t : Token) : Prop :=
  (t.isMember = true ∧ ∃ m, s.member? t = some m ∧ m.name = name ∧
      m.signature.returnsValue = true) ∨
    (t.isMethod = true ∧ ∃ m, s.method? t = some m ∧ m.name = name ∧
      m.signature.returnsValue = true)

/-- A helper does nothing but set a field of truth values. -/
def SetsFlag (s : Store) (helper : Body) : Prop :=
  helper.opcodes = [.ldarg0, .ldcI41, .stfld, .ret] ∧
    ∃ t f, helper.HasToken 2 t ∧ t.isField = true ∧ s.field? t = some f ∧
      f.typeName = "System.Boolean"

/-- At a position of a helper, the stack is accessed through an accessor. -/
def AccessesAt (s : Store) (accessor : String) (helper : Body) (p : Nat) :
    Prop :=
  [.ldarg0, .ldfld, .callvirt] <+: helper.opcodes.drop p ∧
    ∃ t, helper.HasToken (p + 2) t ∧ s.IsGetter accessor t

end Store

namespace Inspection

variable {s : Site}

theorem setsFlag_iff :
    setsFlag.holds s = true ↔
      ∃ t f, s.body.HasToken (s.start + 2) t ∧ t.isField = true ∧
        s.env.store.field? t = some f ∧ f.typeName = booleanName := by
  rw [holds, Option.any_eq_true]
  simp only [Site.field?_eq_some_iff, FieldRecord.isOfType, beq_iff_eq]
  constructor
  · rintro ⟨f, ⟨t, htoken, hfield, hf⟩, hname⟩
    exact ⟨t, f, htoken, hfield, hf, hname⟩
  · rintro ⟨t, f, htoken, hfield, hf, hname⟩
    exact ⟨f, ⟨t, htoken, hfield, hf⟩, hname⟩

/-- A site calls a member of another module or a method of this one, and never
both. -/
theorem called?_eq_some_iff {offset : Nat} {called : String × Signature} :
    called? s offset = some called ↔
      (∃ m, s.member? offset = some m ∧ (m.name, m.signature) = called) ∨
        ∃ m, s.method? offset = some m ∧ (m.name, m.signature) = called := by
  rw [called?]
  cases hmethod : s.method? offset with
  | none => simp [Option.map_eq_some_iff]
  | some m =>
      have hmember : s.member? offset = none := by
        rw [Site.member?, Site.memberToken?_eq_none_of_method? hmethod]
        rfl
      simp [hmember]

theorem readsThrough_iff {accessor : String} :
    readsThrough s accessor = true ↔
      ∃ t, s.body.HasToken (s.start + 2) t ∧
        s.env.store.IsGetter accessor t := by
  rw [readsThrough, Option.any_eq_true]
  simp only [called?_eq_some_iff, Site.member?_eq_some_iff,
    Site.method?_eq_some_iff, Bool.and_eq_true, beq_iff_eq]
  constructor
  · rintro ⟨_, ⟨m, ⟨t, htoken, hkind, hm⟩, rfl⟩ | ⟨m, ⟨t, htoken, hkind, hm⟩, rfl⟩,
      hname, hreturns⟩
    · exact ⟨t, htoken, Or.inl ⟨hkind, m, hm, hname, hreturns⟩⟩
    · exact ⟨t, htoken, Or.inr ⟨hkind, m, hm, hname, hreturns⟩⟩
  · rintro ⟨t, htoken, ⟨hkind, m, hm, hname, hreturns⟩ |
      ⟨hkind, m, hm, hname, hreturns⟩⟩
    · exact ⟨_, Or.inl ⟨m, ⟨t, htoken, hkind, hm⟩, rfl⟩, hname, hreturns⟩
    · exact ⟨_, Or.inr ⟨m, ⟨t, htoken, hkind, hm⟩, rfl⟩, hname, hreturns⟩

end Inspection

namespace Builtin

section Helpers

variable {s : Store} {env : Environment}

theorem isMetBy_enableReturn_iff (henv : env.store = s) (helper : Body) :
    Demand.atStart.IsMetBy (fun p => enableReturn.fitsAt helper p = true ∧
        Inspection.setsFlag.holds ⟨env, helper, p⟩ = true) helper ↔
      s.SetsFlag helper := by
  subst henv
  refine and_congr ?_ Inspection.setsFlag_iff
  rw [Template.fitsAt_entire_iff (t := enableReturn) rfl rfl]
  simp

/-- A template of an access to the stack is accepted at a single position exactly
if there is a single access. -/
theorem isMetBy_access_iff {u : Template} {i : Inspection} {accessor : String}
    (hextent : u.extent = .window)
    (hslots : u.slots = [.ldarg0, .ldfld, .callvirt].map .exact)
    (hi : ∀ site, i.holds site = Inspection.readsThrough site accessor)
    (henv : env.store = s) (helper : Body) :
    Demand.once.IsMetBy (fun p => u.fitsAt helper p = true ∧
        i.holds ⟨env, helper, p⟩ = true) helper ↔
      ∃! p, s.AccessesAt accessor helper p := by
  subst henv
  refine existsUnique_congr fun p => ?_
  have hfits : u.fitsAt helper p = true ↔ _ :=
    Template.fitsAt_window_iff hextent hslots
  simp only [hfits, hi, Inspection.readsThrough_iff, Store.AccessesAt]
  constructor
  · rintro ⟨-, ⟨-, hopcodes⟩, haccess⟩
    exact ⟨hopcodes, haccess⟩
  · rintro ⟨hopcodes, haccess⟩
    have hlength : 3 ≤ helper.length - p := by
      simpa using hopcodes.length_le
    exact ⟨by omega, ⟨by omega, hopcodes⟩, haccess⟩

end Helpers

/-- The exact meaning of the built-in templates that delegate. A handler is
bound to `ret` if it consists of a call of a helper that does nothing but set a
field of truth values. It is bound to `dup`, or to `pop`, if it has the opcodes
of the template and calls a helper in which the top of the stack is read, or
taken off, at exactly one position. In either case a helper must be allowed. -/
theorem resolveOne_bound_by_delegation (s : Store) (config : Config)
    (id : HandlerId) (body : Body) :
    let outcome := (Resolver.mk catalog s config).resolveOne ⟨id, some body⟩
    ((∃ b, outcome = .bound b ∧ b.opcode = .ret) ↔
      1 ≤ config.maxDepth ∧ body.opcodes = [.ldarg0, .callvirt, .ret] ∧
        ∃ helper, s.Calls body 1 helper ∧ s.SetsFlag helper) ∧
    ((∃ b, outcome = .bound b ∧ b.opcode = .dup) ↔
      1 ≤ config.maxDepth ∧
        body.opcodes = [.ldarg0, .callvirt, .stloc0, .ldarg0, .ldloc0,
          .callvirt, .callvirt, .ret] ∧
        ∃ helper, s.Calls body 1 helper ∧ ∃! p, s.AccessesAt "Peek" helper p) ∧
    ((∃ b, outcome = .bound b ∧ b.opcode = .pop) ↔
      1 ≤ config.maxDepth ∧
        body.opcodes = [.ldarg0, .callvirt, .pop, .ret] ∧
        ∃ helper, s.Calls body 1 helper ∧
          ∃! p, s.AccessesAt "Pop" helper p) := by
  intro outcome
  refine ⟨?_, ?_, ?_⟩
  · exact exists_bound_iff_of_delegation (t := ret) (u := enableReturn)
      (by decide) rfl rfl rfl rfl rfl rfl rfl fun _ => isMetBy_enableReturn_iff
  · exact exists_bound_iff_of_delegation (t := dup) (u := peekStack)
      (by decide) rfl rfl rfl rfl rfl rfl rfl fun _ =>
        isMetBy_access_iff rfl rfl fun _ => rfl
  · exact exists_bound_iff_of_delegation (t := pop) (u := popStack)
      (by decide) rfl rfl rfl rfl rfl rfl rfl fun _ =>
        isMetBy_access_iff rfl rfl fun _ => rfl

/-- A handler that calls the helper that ends the interpreter. It is refused if
no helper may be looked into. -/
example :
    let flag : FieldRecord :=
      ⟨.ofParts Token.fieldTable 1, "", "System.Boolean", none⟩
    let helper : MethodRecord :=
      ⟨.ofParts Token.methodTable 1, "", none, ⟨none, []⟩,
        some [⟨0, .ldarg0, .none⟩, ⟨1, .ldcI41, .none⟩,
          ⟨2, .stfld, .token flag.token⟩, ⟨7, .ret, .none⟩]⟩
    let s : Store := ⟨.ofList [.method helper, .field flag], by decide⟩
    let h : Handler := ⟨⟨1⟩, some [⟨0, .ldarg0, .none⟩,
      ⟨1, .callvirt, .token helper.token⟩, ⟨6, .ret, .none⟩]⟩
    (Resolver.mk catalog s ⟨false, 1⟩).resolveOne h =
        .bound ⟨⟨1⟩, .ret, retName, 0, true⟩ ∧
      (Resolver.mk catalog s ⟨false, 0⟩).resolveOne h =
        .unresolved (.rejected [retName]) := by
  decide

end Builtin

end HandlerRecognition
