import HandlerRecognition.Proofs.Metadata.FullName
import HandlerRecognition.Proofs.Resolution.Binding

/-!
# What the template of `ldtoken` says

The template of `ldtoken` is tried at every position and may stand in the middle
of a body. It is accepted where a field is resolved and its handle is loaded and
boxed (`Store.LoadsFieldHandleAt`), so a handler is bound to `ldtoken` at the first
such position. The accessor of the handle is told by its full name, which is that
of no other member whose parameter types have names.
-/

namespace HandlerRecognition

namespace Store

/-- At a position of a body, a field is resolved, and its handle is loaded and
boxed. -/
structure LoadsFieldHandleAt (s : Store) (body : Body) (p : Nat) : Prop where
  opcodes : ∃ load ∈ Family.loadLocal.members,
    ∃ store ∈ Family.storeLocal.members,
      [.ldarg0, load, .callvirt, .callvirt, .box, store] <+:
        body.opcodes.drop p
  resolves : ∃ t m, body.HasToken (p + 2) t ∧ t.isMethod = true ∧
    s.method? t = some m ∧
    m.signature.returnType? = some "System.Reflection.FieldInfo"
  reads : ∃ t m, body.HasToken (p + 3) t ∧ t.isMember = true ∧
    s.member? t = some m ∧ m.ReadsFieldHandle

theorem LoadsFieldHandleAt.lt_length {s : Store} {body : Body} {p : Nat}
    (h : s.LoadsFieldHandleAt body p) : p < body.length := by
  obtain ⟨load, -, store, -, hbegins⟩ := h.opcodes
  have hlength : 6 ≤ body.length - p := by
    simpa using hbegins.length_le
  omega

end Store

namespace Inspection

variable {s : Site}

theorem returnsType_iff {offset : Nat} {typeName : String} :
    s.returnsType offset typeName = true ↔
      ∃ t m, s.body.HasToken (s.start + offset) t ∧ t.isMethod = true ∧
        s.env.store.method? t = some m ∧
        m.signature.returnType? = some typeName := by
  rw [Site.returnsType, Option.any_eq_true]
  simp only [Site.method?_eq_some_iff, Signature.returns_iff]
  constructor
  · rintro ⟨m, ⟨t, htoken, hkind, hm⟩, hreturns⟩
    exact ⟨t, m, htoken, hkind, hm, hreturns⟩
  · rintro ⟨t, m, htoken, hkind, hm, hreturns⟩
    exact ⟨m, ⟨t, htoken, hkind, hm⟩, hreturns⟩

theorem loadsFieldHandle_iff :
    loadsFieldHandle.holds s = true ↔
      (∃ t m, s.body.HasToken (s.start + 2) t ∧ t.isMethod = true ∧
        s.env.store.method? t = some m ∧
        m.signature.returnType? = some "System.Reflection.FieldInfo") ∧
      ∃ t m, s.body.HasToken (s.start + 3) t ∧ t.isMember = true ∧
        s.env.store.member? t = some m ∧ m.ReadsFieldHandle := by
  rw [holds, Bool.and_eq_true, returnsType_iff, Option.any_eq_true]
  refine and_congr_right fun _ => ?_
  simp only [Site.member?_eq_some_iff, beq_iff_eq, MemberRecord.fullName_eq_iff]
  constructor
  · rintro ⟨m, ⟨t, htoken, hkind, hm⟩, hreads⟩
    exact ⟨t, m, htoken, hkind, hm, hreads⟩
  · rintro ⟨t, m, htoken, hkind, hm, hreads⟩
    exact ⟨m, ⟨t, htoken, hkind, hm⟩, hreads⟩

end Inspection

namespace Builtin

variable {env : Environment} {body : Body} {p : Nat}

/-- The slots of `ldtoken` accept any numbers of local variables. -/
theorem acceptEach_ldtoken_iff {opcodes : List Opcode} :
    Slot.AcceptEach ldtoken.slots opcodes ↔
      ∃ load ∈ Family.loadLocal.members, ∃ store ∈ Family.storeLocal.members,
        [.ldarg0, load, .callvirt, .callvirt, .box, store] = opcodes := by
  have hslots : ldtoken.slots = [.exact .ldarg0, .family .loadLocal,
      .exact .callvirt, .exact .callvirt, .exact .box, .family .storeLocal] := by
    decide
  rw [hslots, Slot.AcceptEach]
  simp only [List.forall₂_cons_left_iff, List.forall₂_nil_left_iff,
    Slot.accepts, Family.contains_iff, beq_iff_eq, exists_and_left,
    ↓existsAndEq, true_and, and_true, exists_eq_left']
  constructor
  · rintro ⟨load, store, ⟨hload, hstore⟩, rfl⟩
    exact ⟨load, hload, store, hstore, rfl⟩
  · rintro ⟨load, hload, store, hstore, rfl⟩
    exact ⟨load, store, ⟨hload, hstore⟩, rfl⟩

theorem fitsAt_ldtoken_iff :
    ldtoken.fitsAt body p = true ↔
      p ≤ body.length ∧ ∃ load ∈ Family.loadLocal.members,
        ∃ store ∈ Family.storeLocal.members,
          [.ldarg0, load, .callvirt, .callvirt, .box, store] <+:
            body.opcodes.drop p := by
  rw [Template.fitsAt_window_iff_acceptEach rfl]
  simp only [acceptEach_ldtoken_iff]
  refine and_congr_right fun _ => ?_
  constructor
  · rintro ⟨_, hbegins, load, hload, store, hstore, rfl⟩
    exact ⟨load, hload, store, hstore, hbegins⟩
  · rintro ⟨load, hload, store, hstore, hbegins⟩
    exact ⟨_, hbegins, load, hload, store, hstore, rfl⟩

theorem accepts_ldtoken_iff :
    env.accepts ldtoken body p = true ↔
      env.store.LoadsFieldHandleAt body p := by
  rw [Environment.accepts_eq, Bool.and_eq_true, fitsAt_ldtoken_iff,
    Environment.verifies_of_inspection (t := ldtoken) rfl,
    Inspection.loadsFieldHandle_iff]
  constructor
  · rintro ⟨⟨-, hopcodes⟩, hresolves, hreads⟩
    exact ⟨hopcodes, hresolves, hreads⟩
  · intro h
    exact ⟨⟨h.lt_length.le, h.opcodes⟩, h.resolves, h.reads⟩

theorem locate?_ldtoken_iff :
    env.locate? ldtoken body = some p ↔
      env.store.LoadsFieldHandleAt body p ∧
        ∀ q < p, ¬ env.store.LoadsFieldHandleAt body q := by
  rw [Environment.locate?_eq_some_iff_of_scan (t := ldtoken) rfl]
  simp only [accepts_ldtoken_iff]
  exact and_iff_right_of_imp fun h => h.1.lt_length

/-- The exact meaning of the built-in template of `ldtoken`. A handler is bound to
`ldtoken` at the first position of its body at which the handle of a field is
loaded. The accessor of the handle is told apart by its full name from all
members whose parameter types have names. -/
theorem resolveOne_bound_to_ldtoken (s : Store) (config : Config)
    (id : HandlerId) (body : Body) :
    let outcome := (Resolver.mk catalog s config).resolveOne ⟨id, some body⟩
    (∀ p, (∃ b, outcome = .bound b ∧ b.opcode = .ldtoken ∧ b.position = p) ↔
      s.LoadsFieldHandleAt body p ∧ ∀ q < p, ¬ s.LoadsFieldHandleAt body q) ∧
    ∀ m : MemberRecord, (∀ name ∈ m.signature.parameters, name ≠ "") →
      (m.fullName = Inspection.fieldHandleAccessor ↔
        m = ⟨m.token, "System.Reflection.FieldInfo", "get_FieldHandle",
          ⟨some "System.RuntimeFieldHandle", []⟩⟩) := by
  intro outcome
  refine ⟨fun p => ?_, fun m => MemberRecord.fullName_eq_iff_of_named⟩
  let r : Resolver := ⟨catalog, s, config⟩
  have hlocate : r.environment.locate? ldtoken body = some p ↔
      s.LoadsFieldHandleAt body p ∧ ∀ q < p, ¬ s.LoadsFieldHandleAt body q :=
    locate?_ldtoken_iff
  have hbound {b : Binding} : outcome = .bound b ∧ b.opcode = .ldtoken ↔
      ∃ p, r.environment.locate? ldtoken body = some p ∧
        b = ⟨id, .ldtoken, ldtokenName, p, true⟩ :=
    resolveOne_eq_bound_iff (t := ldtoken) (by decide) rfl
  constructor
  · rintro ⟨b, hb, hopcode, rfl⟩
    obtain ⟨p, hp, rfl⟩ := hbound.mp ⟨hb, hopcode⟩
    exact hlocate.mp hp
  · intro hloads
    obtain ⟨hb, hopcode⟩ := hbound.mpr ⟨p, hlocate.mpr hloads, rfl⟩
    exact ⟨_, hb, hopcode, rfl⟩

/-- A body in which the handle of a field is loaded after another
instruction. -/
theorem resolveOne_bound_to_ldtoken_behind :
    let resolveField : MethodRecord :=
      ⟨.ofParts Token.methodTable 1, "", none,
        ⟨some "System.Reflection.FieldInfo", []⟩, none⟩
    let accessor : MemberRecord :=
      ⟨.ofParts Token.memberTable 1, "System.Reflection.FieldInfo",
        "get_FieldHandle", ⟨some "System.RuntimeFieldHandle", []⟩⟩
    let s : Store :=
      ⟨.ofList [.method resolveField, .member accessor], by decide⟩
    let body : Body :=
      [⟨0, .nop, .none⟩, ⟨1, .ldarg0, .none⟩, ⟨2, .ldlocS, .localVariable 7⟩,
        ⟨4, .callvirt, .token resolveField.token⟩,
        ⟨9, .callvirt, .token accessor.token⟩, ⟨14, .box, .none⟩,
        ⟨19, .stloc1, .none⟩]
    s.LoadsFieldHandleAt body 1 ∧ ¬ s.LoadsFieldHandleAt body 0 ∧
      accessor.fullName = Inspection.fieldHandleAccessor := by
  intro resolveField accessor s body
  have hmeaning := resolveOne_bound_to_ldtoken s .standard ⟨4⟩ body
  obtain ⟨hloads, hfirst⟩ := (hmeaning.1 1).mp
    ⟨⟨⟨4⟩, .ldtoken, ldtokenName, 1, true⟩, by decide, rfl, rfl⟩
  exact ⟨hloads, hfirst 0 Nat.one_pos,
    (hmeaning.2 accessor (by simp [accessor])).mpr rfl⟩

end Builtin

end HandlerRecognition
