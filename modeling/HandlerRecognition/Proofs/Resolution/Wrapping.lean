import HandlerRecognition.Proofs.Resolution.Binding
import Mathlib.Data.List.Perm.Basic

/-!
# What the templates of `ldnull` and `ldc.i4.0` say

Both templates have the shape of a handler that constructs a wrapper and pushes
it. A wrapper holds a single value and derives from the base of all wrappers,
which holds a number and a type. Which of the two opcodes a handler stands for
is the type of the value in the wrapper (`Store.Wraps`).

The wrapper is looked up twice: as the type that declares the constructor, and
by its own token when its base is asked for. A store finds a type under its own
token only, so this is the same type (`Store.baseOf?_token`).
-/

namespace HandlerRecognition

/-- A list of two members, one of them each, up to their order. -/
theorem perm_pair_iff_count {α : Type} [DecidableEq α] {a b : α} (hne : a ≠ b)
    {l : List α} :
    l.Perm [a, b] ↔ l.length = 2 ∧ l.count a = 1 ∧ l.count b = 1 := by
  constructor
  · intro h
    rw [h.length_eq, h.count_eq, h.count_eq]
    simp [hne, hne.symm]
  · rintro ⟨hlength, ha, hb⟩
    have hmem : a ∈ l := List.count_pos_iff.mp (by omega)
    have hperm : l.Perm (a :: l.erase a) := List.perm_cons_erase hmem
    have hrest : (l.erase a).length = 1 := by
      rw [List.length_erase_of_mem hmem, hlength]
    have hcount : (l.erase a).count b = 1 := by
      rwa [List.count_erase_of_ne hne.symm]
    obtain ⟨c, hc⟩ := List.length_eq_one_iff.mp hrest
    have hcb : b ∈ l.erase a := List.count_pos_iff.mp (by omega)
    rw [hc, List.mem_singleton] at hcb
    rwa [hc, ← hcb] at hperm

theorem TypeRecord.countFields_eq_count (t : TypeRecord) (name : String) :
    t.countFields name = (t.fields.map FieldRecord.typeName).count name := by
  rw [countFields, List.count, List.countP_map]
  rfl

namespace Store

variable {s : Store} {t : Token} {wrapper : TypeRecord}

/-- A type holds nothing but a value of the named type, and its base holds a
number and a type. -/
def Wraps (s : Store) (valueName : String) (wrapper : TypeRecord) : Prop :=
  wrapper.fields.map FieldRecord.typeName = [valueName] ∧
    ∃ t base, wrapper.base? = some t ∧ s.type? t = some base ∧
      (base.fields.map FieldRecord.typeName).Perm
        ["System.Int32", "System.Type"]

/-- The instruction at a position refers to the constructor of a wrapper of a
value of the named type. -/
def ConstructsWrapper (s : Store) (valueName : String) (body : Body) (p : Nat) :
    Prop :=
  ∃ t m owner wrapper, body.HasToken p t ∧ t.isMethod = true ∧
    s.method? t = some m ∧ m.name = ".ctor" ∧
    m.declaringType? = some owner ∧ s.type? owner = some wrapper ∧
    s.Wraps valueName wrapper

/-- The base of a type that was found is that in its record. -/
theorem baseOf?_token (h : s.type? t = some wrapper) :
    s.baseOf? wrapper.token = wrapper.base?.bind s.type? := by
  rw [token_of_type? h, baseOf?, h]
  rfl

end Store

namespace Inspection

variable {s : Site} {valueName : String}

theorem isWrapperBase_iff {base : TypeRecord} :
    isWrapperBase base = true ↔
      (base.fields.map FieldRecord.typeName).Perm
        ["System.Int32", "System.Type"] := by
  have hne : int32Name ≠ typeName := by
    decide
  simp only [isWrapperBase, Bool.and_eq_true, beq_iff_eq, and_assoc,
    TypeRecord.countFields_eq_count]
  rw [← List.length_map (f := FieldRecord.typeName), ← perm_pair_iff_count hne]
  rfl

theorem wrapsOnly_iff_map {wrapper : TypeRecord} :
    wrapsOnly valueName wrapper = true ↔
      wrapper.fields.map FieldRecord.typeName = [valueName] := by
  simp only [wrapsOnly_iff, List.map_eq_singleton_iff]

theorem constructedType?_eq_some_iff {offset : Nat} {wrapper : TypeRecord} :
    s.constructedType? offset = some wrapper ↔
      ∃ t m owner, s.body.HasToken (s.start + offset) t ∧ t.isMethod = true ∧
        s.env.store.method? t = some m ∧ m.name = ".ctor" ∧
        m.declaringType? = some owner ∧
        s.env.store.type? owner = some wrapper := by
  simp only [Site.constructedType?, Option.bind_eq_some_iff,
    Option.filter_eq_some_iff, Site.method?_eq_some_iff,
    MethodRecord.isConstructor, beq_iff_eq]
  constructor
  · rintro ⟨owner, ⟨m, ⟨⟨t, htoken, hkind, hm⟩, hname⟩, howner⟩, htype⟩
    exact ⟨t, m, owner, htoken, hkind, hm, hname, howner, htype⟩
  · rintro ⟨t, m, owner, htoken, hkind, hm, hname, howner, htype⟩
    exact ⟨owner, ⟨m, ⟨⟨t, htoken, hkind, hm⟩, hname⟩, howner⟩, htype⟩

/-- What is asked of a wrapper that was found is said by its record and that of
its base. -/
theorem wraps_iff {store : Store} {t : Token} {wrapper : TypeRecord}
    (h : store.type? t = some wrapper) :
    (wrapsOnly valueName wrapper &&
        (store.baseOf? wrapper.token).any isWrapperBase) = true ↔
      store.Wraps valueName wrapper := by
  rw [Bool.and_eq_true, wrapsOnly_iff_map, Store.baseOf?_token h,
    Option.any_eq_true]
  simp only [Option.bind_eq_some_iff, isWrapperBase_iff]
  refine and_congr_right fun _ => ?_
  constructor
  · rintro ⟨base, ⟨t, hbase, htype⟩, hfields⟩
    exact ⟨t, base, hbase, htype, hfields⟩
  · rintro ⟨t, base, hbase, htype, hfields⟩
    exact ⟨base, ⟨t, hbase, htype⟩, hfields⟩

theorem constructsWrapper_iff :
    constructsWrapper s valueName = true ↔
      s.env.store.ConstructsWrapper valueName s.body (s.start + 1) := by
  rw [constructsWrapper, Option.any_eq_true]
  simp only [constructedType?_eq_some_iff]
  constructor
  · rintro ⟨wrapper, ⟨t, m, owner, htoken, hkind, hm, hname, howner, htype⟩,
      hwraps⟩
    exact ⟨t, m, owner, wrapper, htoken, hkind, hm, hname, howner, htype,
      (wraps_iff htype).mp hwraps⟩
  · rintro ⟨t, m, owner, wrapper, htoken, hkind, hm, hname, howner, htype,
      hwraps⟩
    exact ⟨wrapper, ⟨t, m, owner, htoken, hkind, hm, hname, howner, htype⟩,
      (wraps_iff htype).mpr hwraps⟩

end Inspection

namespace Builtin

section Wrappers

variable {s : Store} {config : Config} {id : HandlerId} {body : Body}

/-- The opcodes of a handler that constructs a wrapper and pushes it. -/
def wrapping : List Opcode := [.ldarg0, .newobj, .callvirt, .ret]

/-- What it takes to be bound by a template of a wrapper. -/
theorem exists_bound_iff_of_wrapper {t : Template} {target : Opcode}
    {i : Inspection} {valueName : String} (ht : t ∈ catalog.bound)
    (htarget : t.target? = some target) (hanchor : t.anchor = .start)
    (hextent : t.extent = .entire) (hslots : t.slots = wrapping.map .exact)
    (hverifier : t.verifier? = some (.inspection i))
    (hi : ∀ site, i.holds site = Inspection.constructsWrapper site valueName) :
    (∃ b, (Resolver.mk catalog s config).resolveOne ⟨id, some body⟩ =
        .bound b ∧ b.opcode = target) ↔
      body.opcodes = wrapping ∧ s.ConstructsWrapper valueName body 1 := by
  rw [exists_bound_iff_of_entire ht htarget hanchor hextent hslots,
    Environment.verifies_of_inspection hverifier, hi,
    Inspection.constructsWrapper_iff, Nat.zero_add]
  rfl

/-- A handler that constructs a wrapper has the shapes of the two templates and of
no other. -/
theorem shaped_of_wrapping (h : body.opcodes = wrapping) :
    catalog.shaped body = [ldnull, ldcI4Zero] := by
  have hmem (t : Template) (ht : t ∈ catalog.bound) (hanchor : t.anchor = .start)
      (hextent : t.extent = .entire) (hslots : t.slots = wrapping.map .exact) :
      t ∈ catalog.shaped body := by
    have hfits : t.fitsAt body 0 = true :=
      (Template.fitsAt_entire_iff hextent hslots).mpr ⟨Nat.zero_le _, h⟩
    refine List.mem_filter.mpr ⟨ht, List.any_eq_true.mpr ⟨0, ?_, hfits⟩⟩
    rw [hanchor]
    exact List.mem_singleton_self 0
  have hobject := hmem ldnull (by decide) rfl rfl rfl
  have hinteger := hmem ldcI4Zero (by decide) rfl rfl rfl
  rcases shaped_cases body with hnil | ⟨t, hone⟩ | hboth
  · simp [hnil] at hobject
  · rw [hone, List.mem_singleton] at hobject hinteger
    exact absurd (hobject.trans hinteger.symm) (by decide)
  · exact hboth

/-- A handler that constructs something else than a wrapper of an object or of an
integer is refused by both templates. -/
theorem rejected_of_wrapping (h : body.opcodes = wrapping)
    (hobject : ¬ s.ConstructsWrapper "System.Object" body 1)
    (hinteger : ¬ s.ConstructsWrapper "System.Int32" body 1) :
    (Resolver.mk catalog s config).resolveOne ⟨id, some body⟩ =
      .unresolved (.rejected [ldnullName, ldcI4ZeroName]) := by
  let r : Resolver := ⟨catalog, s, config⟩
  have hlocated : catalog.located r.environment.locate? body = [] := by
    rw [List.eq_nil_iff_forall_not_mem]
    intro t ht
    obtain ⟨p, hp⟩ := Option.isSome_iff_exists.mp (List.mem_filter.mp ht).2
    rw [Environment.locate?_eq] at ht
    have hshaped :=
      (catalog.located_sublist_shaped r.environment.verifies body).subset ht
    rw [shaped_of_wrapping h, List.mem_pair] at hshaped
    rcases hshaped with rfl | rfl
    · have hholds := (Environment.locate?_eq_some_iff_of_start rfl).mp hp
      exact hobject (Inspection.constructsWrapper_iff.mp hholds.2.2)
    · have hholds := (Environment.locate?_eq_some_iff_of_start rfl).mp hp
      exact hinteger (Inspection.constructsWrapper_iff.mp hholds.2.2)
  cases body with
  | nil => simp [Body.opcodes, wrapping] at h
  | cons i is =>
      have hf : Outcome.Follows catalog r.environment.locate? id (i :: is)
          (r.resolveOne ⟨id, some (i :: is)⟩) :=
        r.follows_locate? ⟨id, some (i :: is)⟩
      refine (hf.rejected _).mpr ⟨hlocated, by simp, ?_⟩
      rw [shaped_of_wrapping h]
      rfl

end Wrappers

/-- The exact meaning of the built-in templates of wrappers. A handler is bound to
`ldnull` if it has the opcodes of the template and constructs a wrapper of an
object, and to `ldc.i4.0` if it constructs a wrapper of an integer. With these
opcodes and any other type, or a type about which something is not known, it is
refused by both templates. -/
theorem resolveOne_bound_by_wrapper (s : Store) (config : Config)
    (id : HandlerId) (body : Body) :
    let outcome := (Resolver.mk catalog s config).resolveOne ⟨id, some body⟩
    let opcodes : List Opcode := [.ldarg0, .newobj, .callvirt, .ret]
    ((∃ b, outcome = .bound b ∧ b.opcode = .ldnull) ↔
      body.opcodes = opcodes ∧ s.ConstructsWrapper "System.Object" body 1) ∧
    ((∃ b, outcome = .bound b ∧ b.opcode = .ldcI40) ↔
      body.opcodes = opcodes ∧ s.ConstructsWrapper "System.Int32" body 1) ∧
    (body.opcodes = opcodes → ¬ s.ConstructsWrapper "System.Object" body 1 →
      ¬ s.ConstructsWrapper "System.Int32" body 1 →
      outcome = .unresolved (.rejected ["Ldnull", "LdcI4Zero"])) := by
  intro outcome opcodes
  refine ⟨?_, ?_, ?_⟩
  · exact exists_bound_iff_of_wrapper (t := ldnull) (by decide) rfl rfl rfl rfl
      rfl fun _ => rfl
  · exact exists_bound_iff_of_wrapper (t := ldcI4Zero) (by decide) rfl rfl rfl
      rfl rfl fun _ => rfl
  · exact rejected_of_wrapping

/-- A base with two numbers and no type is not the base of a wrapper. -/
theorem resolveOne_bound_by_wrapper_lopsided_base :
    let field (row : UInt32) (typeName : String) : FieldRecord :=
      ⟨.ofParts Token.fieldTable row, "", typeName, none⟩
    let base (second : String) : TypeRecord :=
      ⟨.ofParts Token.typeDefTable 1, "", "Operand", none,
        [field 1 "System.Int32", field 2 second]⟩
    let wrapper : TypeRecord :=
      ⟨.ofParts Token.typeDefTable 2, "", "Wrapper",
        some (.ofParts Token.typeDefTable 1), [field 3 "System.Object"]⟩
    let constructor : MethodRecord :=
      ⟨.ofParts Token.methodTable 1, ".ctor", some wrapper.token, ⟨none, []⟩,
        none⟩
    let records (second : String) : List Record :=
      [.type (base second), .type wrapper, .method constructor]
    let s : Store := ⟨.ofList (records "System.Type"), by decide⟩
    let s' : Store := ⟨.ofList (records "System.Int32"), by decide⟩
    let body : Body := [⟨0, .ldarg0, .none⟩,
      ⟨1, .newobj, .token constructor.token⟩, ⟨6, .callvirt, .none⟩,
      ⟨11, .ret, .none⟩]
    s.ConstructsWrapper "System.Object" body 1 ∧
      ¬ s'.ConstructsWrapper "System.Object" body 1 ∧
      ¬ s'.ConstructsWrapper "System.Int32" body 1 ∧
      (Resolver.mk catalog s' .standard).resolveOne ⟨⟨3⟩, some body⟩ =
        .unresolved (.rejected ["Ldnull", "LdcI4Zero"]) := by
  intro field base wrapper constructor records s s' body
  have hmeaning := resolveOne_bound_by_wrapper s .standard ⟨3⟩ body
  have hmeaning' := resolveOne_bound_by_wrapper s' .standard ⟨3⟩ body
  have hrefused : (Resolver.mk catalog s' .standard).resolveOne
      ⟨⟨3⟩, some body⟩ = .unresolved (.rejected [ldnullName, ldcI4ZeroName]) := by
    decide
  have hobject : ¬ s'.ConstructsWrapper "System.Object" body 1 := by
    intro h
    obtain ⟨b, hb, -⟩ := hmeaning'.1.mpr ⟨rfl, h⟩
    simp [hrefused] at hb
  have hinteger : ¬ s'.ConstructsWrapper "System.Int32" body 1 := by
    intro h
    obtain ⟨b, hb, -⟩ := hmeaning'.2.1.mpr ⟨rfl, h⟩
    simp [hrefused] at hb
  refine ⟨?_, hobject, hinteger, hmeaning'.2.2 rfl hobject hinteger⟩
  exact (hmeaning.1.mp
    ⟨⟨⟨3⟩, .ldnull, ldnullName, 0, true⟩, by decide, rfl⟩).2

end Builtin

end HandlerRecognition
