import HandlerRecognition.Proofs.Matching.Similarity
import HandlerRecognition.Proofs.Matching.Simulation

/-!
# Similar stores and sites

Stores are similar if they know the same tokens and say the same about them,
except that the bodies of methods are only similar. What a verifier asks of a
site then has the same answer in similar environments and similar bodies. The
answers that contain a body are those about a method and about a helper, and
there the bodies are similar again. So similarity is a simulation between sites,
as long as the templates of the catalog are indifferent to the opcodes that
similar bodies may exchange.
-/

namespace HandlerRecognition

variable {S : Opcode → Opcode → Prop}

/-- The same record of a method, with similar bodies. -/
structure MethodRecord.SimilarUpTo (S : Opcode → Opcode → Prop)
    (m m' : MethodRecord) : Prop where
  token : m.token = m'.token
  name : m.name = m'.name
  declaringType? : m.declaringType? = m'.declaringType?
  signature : m.signature = m'.signature
  body? : Option.Rel (Body.SimilarUpTo S) m.body? m'.body?

theorem MethodRecord.SimilarUpTo.isConstructor {m m' : MethodRecord}
    (h : m.SimilarUpTo S m') : m.isConstructor = m'.isConstructor := by
  rw [MethodRecord.isConstructor, MethodRecord.isConstructor, h.name]

/-- The same answer to every token, except that bodies are similar. -/
structure Store.SimilarUpTo (S : Opcode → Opcode → Prop) (s s' : Store) :
    Prop where
  method? (t : Token) :
    Option.Rel (MethodRecord.SimilarUpTo S) (s.method? t) (s'.method? t)
  member? : s.member? = s'.member?
  type? : s.type? = s'.type?
  field? : s.field? = s'.field?

abbrev Store.Similar : Store → Store → Prop :=
  SimilarUpTo (· = ·)

namespace Store.SimilarUpTo

variable {s s' : Store}

theorem refl (hS : ∀ o, S o o) (s : Store) : SimilarUpTo S s s where
  method? t := by
    generalize s.method? t = m?
    cases m? with
    | none => exact .none
    | some m =>
        refine .some ⟨rfl, rfl, rfl, rfl, ?_⟩
        cases m.body? with
        | none => exact .none
        | some body => exact .some (.refl hS body)
  member? := rfl
  type? := rfl
  field? := rfl

/-- Stores are similar if their methods are, one by one, and all other records
are the same. -/
theorem of_forall₂
    (hmethods : List.Forall₂ (MethodRecord.SimilarUpTo S) s.records.methods
      s'.records.methods)
    (hmembers : s.records.members = s'.records.members)
    (htypes : s.records.types = s'.records.types)
    (hfields : s.records.looseFields = s'.records.looseFields) :
    SimilarUpTo S s s' where
  method? t := rel_find?_of_forall₂ hmethods fun _ _ hm => by rw [hm.token]
  member? := by
    funext t
    rw [Store.member?, Store.member?, hmembers]
  type? := by
    funext t
    rw [Store.type?, Store.type?, htypes]
  field? := by
    funext t
    rw [Store.field?, Store.field?, RecordSet.fields, RecordSet.fields, htypes,
      hfields]

theorem body? (h : SimilarUpTo S s s') (t : Token) :
    Option.Rel (Body.SimilarUpTo S) (s.body? t) (s'.body? t) :=
  rel_bind (h.method? t) fun _ _ hm => hm.body?

theorem baseOf? (h : SimilarUpTo S s s') (t : Token) :
    s.baseOf? t = s'.baseOf? t := by
  rw [Store.baseOf?, Store.baseOf?, h.type?]

end Store.SimilarUpTo

/-- The same catalog and depth, and similar stores. -/
structure Environment.SimilarUpTo (S : Opcode → Opcode → Prop)
    (env env' : Environment) : Prop where
  catalog : env.catalog = env'.catalog
  store : env.store.SimilarUpTo S env'.store
  depth : env.depth = env'.depth
  maxDepth : env.maxDepth = env'.maxDepth

theorem Environment.SimilarUpTo.budget {env env' : Environment}
    (h : env.SimilarUpTo S env') : env.budget = env'.budget := by
  rw [Environment.budget, Environment.budget, h.depth, h.maxDepth]

theorem Environment.SimilarUpTo.descend {env env' deeper deeper' : Environment}
    (h : env.SimilarUpTo S env') (hd : env.descend? = some deeper)
    (hd' : env'.descend? = some deeper') : deeper.SimilarUpTo S deeper' := by
  obtain ⟨-, rfl⟩ := Environment.descend?_eq_some_iff.mp hd
  obtain ⟨-, rfl⟩ := Environment.descend?_eq_some_iff.mp hd'
  exact ⟨h.catalog, h.store, congrArg (· + 1) h.depth, h.maxDepth⟩

namespace Site

/-- The same position, in similar environments and similar bodies. -/
structure SimilarUpTo (S : Opcode → Opcode → Prop) (s s' : Site) : Prop where
  env : s.env.SimilarUpTo S s'.env
  start : s.start = s'.start
  body : s.body.SimilarUpTo S s'.body

namespace SimilarUpTo

variable {s s' : Site}

theorem instruction? (h : SimilarUpTo S s s') (offset : Nat) :
    Option.Rel (Instruction.SimilarUpTo S) (s.instruction? offset)
      (s'.instruction? offset) := by
  rw [Site.instruction?, Site.instruction?, ← h.start]
  exact rel_getElem?_of_forall₂ h.body _

theorem methodToken? (h : SimilarUpTo S s s') (offset : Nat) :
    s.methodToken? offset = s'.methodToken? offset :=
  bind_eq_of_rel (h.instruction? offset) fun _ _ hij => hij.methodToken?

theorem method? (h : SimilarUpTo S s s') (offset : Nat) :
    Option.Rel (MethodRecord.SimilarUpTo S) (s.method? offset)
      (s'.method? offset) := by
  rw [Site.method?, Site.method?, h.methodToken?]
  cases s'.methodToken? offset with
  | none => exact .none
  | some t => exact h.env.store.method? t

theorem member? (h : SimilarUpTo S s s') (offset : Nat) :
    s.member? offset = s'.member? offset := by
  have htoken := bind_eq_of_rel (h.instruction? offset)
    fun _ _ hij => hij.memberToken?
  rw [Site.member?, Site.member?, htoken, h.env.store.member?]

theorem field? (h : SimilarUpTo S s s') (offset : Nat) :
    s.field? offset = s'.field? offset := by
  have htoken := bind_eq_of_rel (h.instruction? offset)
    fun _ _ hij => hij.fieldToken?
  rw [Site.field?, Site.field?, htoken, h.env.store.field?]

theorem constructedType? (h : SimilarUpTo S s s') (offset : Nat) :
    s.constructedType? offset = s'.constructedType? offset := by
  have howner := bind_eq_of_rel
    (rel_filter (h.method? offset) fun _ _ hm => hm.isConstructor)
    fun _ _ hm => hm.declaringType?
  rw [Site.constructedType?, Site.constructedType?, howner, h.env.store.type?]

theorem returnsType (h : SimilarUpTo S s s') (offset : Nat)
    (typeName : String) :
    s.returnsType offset typeName = s'.returnsType offset typeName :=
  any_eq_of_rel (h.method? offset) fun _ _ hm => by rw [hm.signature]

theorem takesTypes (h : SimilarUpTo S s s') (offset : Nat)
    (typeNames : List String) :
    s.takesTypes offset typeNames = s'.takesTypes offset typeNames :=
  any_eq_of_rel (h.method? offset) fun _ _ hm => by rw [hm.signature]

theorem called? (h : SimilarUpTo S s s') (offset : Nat) :
    Inspection.called? s offset = Inspection.called? s' offset := by
  have hmethod : ((s.method? offset).map fun m => (m.name, m.signature)) =
      (s'.method? offset).map fun m => (m.name, m.signature) :=
    map_eq_of_rel (h.method? offset) fun _ _ hm => by
      rw [hm.name, hm.signature]
  rw [Inspection.called?, Inspection.called?, h.member?, hmethod]

theorem holds (h : SimilarUpTo S s s') (i : Inspection) :
    i.holds s = i.holds s' := by
  cases i <;>
    simp only [Inspection.holds, Inspection.constructsWrapper,
      Inspection.readsThrough, h.called?, h.constructedType?, h.returnsType,
      h.takesTypes, h.member?, h.field?, h.env.store.baseOf?]

/-- A helper is found by its name and its token, with similar bodies. -/
theorem helper? (h : SimilarUpTo S s s') (offset : Nat) (name : String) :
    Option.Rel
      (fun a b => a.1 = b.1 ∧ a.1 ∈ s.env.catalog.templates ∧
        a.2.SimilarUpTo S b.2)
      (s.helper? offset name) (s'.helper? offset name) := by
  rw [Site.helper?, Site.helper?, h.methodToken?, ← h.env.catalog]
  cases hfind : s.env.catalog.find? name with
  | none => exact .none
  | some t =>
      have hmem : t ∈ s.env.catalog.templates := List.mem_of_find?_eq_some hfind
      cases s'.methodToken? offset with
      | none => exact .none
      | some token =>
          exact rel_map (h.env.store.body? token)
            fun _ _ hab => ⟨rfl, hmem, hab⟩

end SimilarUpTo

/-- Verdicts do not tell similar sites apart where the templates are
indifferent. -/
theorem simulation_similarUpTo (S : Opcode → Opcode → Prop) :
    Simulation (Template.Indifferent S) fun s s' => s.SimilarUpTo S s' ∧
      ∀ t ∈ s.env.catalog.templates, t.Indifferent S where
  budget h := h.1.env.budget
  fitsAt h ht := by
    rw [h.1.start]
    exact Template.fitsAt_congr ht h.1.body.opcodes _
  holds h i := h.1.holds i
  helper? {s s'} h offset name := by
    obtain ⟨hsimilar, hcatalog⟩ := h
    refine rel_imp (hsimilar.helper? offset name) fun a b hab => ?_
    obtain ⟨ht, hmem, hbody⟩ := hab
    refine ⟨ht, hcatalog _ hmem, hbody.length_eq, ?_⟩
    intro deeper deeper' start hd hd'
    refine ⟨⟨hsimilar.env.descend hd hd', rfl, hbody⟩, ?_⟩
    obtain ⟨-, rfl⟩ := Environment.descend?_eq_some_iff.mp hd
    exact hcatalog

end Site

namespace Environment

variable {env env' : Environment} {a b : Body} {t : Template}

/-- A template that does not delegate is located alike whatever the other
templates of the catalog are. -/
theorem locate?_eq_of_similarUpTo (henv : env.SimilarUpTo S env')
    (h : a.SimilarUpTo S b) (hslots : t.Indifferent S)
    (ht : ∀ d, t.verifier? ≠ some (.delegation d)) :
    env.locate? t a = env'.locate? t b := by
  have haccepts : env.accepts t a = env'.accepts t b := by
    funext start
    have hsite : Site.SimilarUpTo S ⟨env, a, start⟩ ⟨env', b, start⟩ :=
      ⟨henv, rfl, h⟩
    rw [accepts_eq, accepts_eq, Template.fitsAt_congr hslots h.opcodes,
      verifies_eq_of_holds_eq ht hsite.holds]
  rw [locate?, locate?, haccepts, h.length_eq]

end Environment

end HandlerRecognition
