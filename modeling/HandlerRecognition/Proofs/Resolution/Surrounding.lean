import HandlerRecognition.Proofs.Matching.Locality
import HandlerRecognition.Proofs.Resolution.Binding

/-!
# Bodies inside other bodies

The template of `ldtoken` is tried everywhere and takes up a part of a body, so a
handler that is bound by it stays bound when instructions are put in front of its
body and behind it. Behind the body they change nothing
(`Environment.locate?_append_right`). In front of it they move the position, and
the template may be accepted earlier: among the new instructions, or where these
meet the old ones.
-/

namespace HandlerRecognition

namespace Environment

variable {env : Environment} {t : Template} {before body after : Body} {p : Nat}

/-- A template that is tried everywhere is still located behind other
instructions, and not later than it moved. -/
theorem exists_locate?_append_left (before : Body) (hanchor : t.anchor = .scan)
    (h : env.locate? t body = some p) :
    ∃ q ≤ before.length + p, env.locate? t (before ++ body) = some q := by
  obtain ⟨hlt, haccepts, -⟩ := (locate?_eq_some_iff_of_scan hanchor).mp h
  refine exists_locate?_le ?_ ((accepts_append_left ..).trans haccepts)
  rw [hanchor, Span.mem_positions, List.length_append]
  exact ⟨Nat.zero_le _, Nat.add_lt_add_left hlt _⟩

/-- A template of a part of a body is located in the same place when instructions
follow. -/
theorem locate?_append_right (hanchor : t.anchor = .scan)
    (hextent : t.extent = .window) (hreads : t.ReadsWithin)
    (h : env.locate? t body = some p) :
    env.locate? t (body ++ after) = some p := by
  rw [locate?_eq_some_iff_of_scan hanchor] at h ⊢
  obtain ⟨hlt, haccepts, hfirst⟩ := h
  have hroom : p + t.length ≤ body.length := by
    rw [accepts_eq, Bool.and_eq_true] at haccepts
    exact Template.add_length_le_of_fitsAt haccepts.1
  have hsame {q : Nat} (hq : q ≤ p) :
      env.accepts t (body ++ after) q = env.accepts t body q :=
    accepts_append_right hextent hreads (by omega)
  refine ⟨?_, (hsame le_rfl).trans haccepts, fun q hq => ?_⟩
  · rw [List.length_append]
    omega
  · rw [hsame hq.le]
    exact hfirst q hq

end Environment

namespace Builtin

/-- Matches are local. No match depends on the instructions before it, and none of
a template of a part of a body depends on those behind, provided that its
verifier reads only where it has slots, as all built-in ones do. So a handler that
is bound to `ldtoken` stays bound to it inside every larger body, and where
instructions only follow, at the same position. -/
theorem resolveOne_surrounded :
    (∀ (env : Environment) (t : Template) (before body : Body) (i : Nat),
      env.accepts t (before ++ body) (before.length + i) =
        env.accepts t body i) ∧
    (∀ (env : Environment) (t : Template) (body after : Body) (i : Nat),
      t.extent = .window → t.ReadsWithin → i + t.length ≤ body.length →
        env.accepts t (body ++ after) i = env.accepts t body i) ∧
    (∀ t ∈ templates, t.ReadsWithin) ∧
    ∀ (s : Store) (config : Config) (id : HandlerId)
      (before body after : Body) (b : Binding),
      let r : Resolver := ⟨catalog, s, config⟩
      r.resolveOne ⟨id, some body⟩ = .bound b → b.opcode = .ldtoken →
        ∃ q ≤ before.length + b.position,
          r.resolveOne ⟨id, some (before ++ body ++ after)⟩ =
            .bound { b with position := q } ∧
          (before = [] → q = b.position) := by
  refine ⟨Environment.accepts_append_left, fun env t body after i =>
    Environment.accepts_append_right, readsWithin, ?_⟩
  intro s config id before body after b r hb hopcode
  have hmem : ldtoken ∈ catalog.bound := by decide
  obtain ⟨p, hp, rfl⟩ := (resolveOne_eq_bound_iff hmem rfl).mp ⟨hb, hopcode⟩
  have hbehind : r.environment.locate? ldtoken (body ++ after) = some p :=
    Environment.locate?_append_right rfl rfl (readsWithin _ (by decide)) hp
  obtain ⟨q, hq, hlocate⟩ :=
    Environment.exists_locate?_append_left before rfl hbehind
  refine ⟨q, hq, ?_, ?_⟩
  · rw [List.append_assoc]
    exact ((resolveOne_eq_bound_iff hmem rfl).mpr ⟨q, hlocate, rfl⟩).1
  · rintro rfl
    exact Option.some.inj (hlocate.symm.trans hbehind)

/-- A body that begins with the end of a match. Instructions in front of it
complete this match, which then comes first. -/
theorem resolveOne_surrounded_across_seam :
    let resolveField : MethodRecord :=
      ⟨.ofParts Token.methodTable 1, "", none,
        ⟨some "System.Reflection.FieldInfo", []⟩, none⟩
    let accessor : MemberRecord :=
      ⟨.ofParts Token.memberTable 1, "System.Reflection.FieldInfo",
        "get_FieldHandle", ⟨some "System.RuntimeFieldHandle", []⟩⟩
    let s : Store :=
      ⟨.ofList [.method resolveField, .member accessor], by decide⟩
    let r : Resolver := ⟨catalog, s, .standard⟩
    let head : Body :=
      [⟨0, .ldarg0, .none⟩, ⟨1, .ldloc0, .none⟩,
        ⟨2, .callvirt, .token resolveField.token⟩,
        ⟨7, .callvirt, .token accessor.token⟩]
    let tail : Body := [⟨12, .box, .none⟩, ⟨17, .stloc2, .none⟩]
    let boundAt (q : Nat) : Outcome :=
      .bound ⟨⟨4⟩, .ldtoken, ldtokenName, q, true⟩
    r.resolveOne ⟨⟨4⟩, some (tail ++ head ++ tail)⟩ = boundAt 2 ∧
      r.resolveOne ⟨⟨4⟩, some (head ++ (tail ++ head ++ tail))⟩ = boundAt 0 ∧
      (∃ q ≤ 4 + 2, r.resolveOne
        ⟨⟨4⟩, some (head ++ (tail ++ head ++ tail) ++ head)⟩ = boundAt q) ∧
      r.environment.accepts ldtoken (head ++ tail ++ head) 0 = true := by
  intro resolveField accessor s r head tail boundAt
  have hbound : r.resolveOne ⟨⟨4⟩, some (tail ++ head ++ tail)⟩ = boundAt 2 := by
    decide
  obtain ⟨-, hbehind, hreads, hlocal⟩ := resolveOne_surrounded
  obtain ⟨q, hq, hq', -⟩ := hlocal s .standard ⟨4⟩ head
    (tail ++ head ++ tail) head _ hbound rfl
  refine ⟨hbound, by decide, ⟨q, hq, hq'⟩, ?_⟩
  rw [hbehind r.environment ldtoken (head ++ tail) head 0 rfl
    (hreads _ (by decide)) (by decide)]
  decide

end Builtin

end HandlerRecognition
