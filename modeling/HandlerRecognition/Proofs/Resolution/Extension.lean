import HandlerRecognition.Proofs.Resolution.Comparison

/-!
# Catalogs with more templates

A catalog that begins with the templates of another one keeps all acceptances:
what was found under a name still is, and a delegation that found nothing was
refused. So outcomes grow, and no handler is bound to another opcode.

The binding itself may change. A template that was refused because a name was
unknown may be accepted once a template has this name, and it may come before
the one that the handler was bound by. This cannot happen if the names that are
delegated to were all known before.
-/

namespace HandlerRecognition

namespace Catalog

variable {c c' : Catalog} {locate? : Template → Body → Option Nat}

/-- The names that verifiers delegate to. -/
def delegateNames : List String :=
  [Builtin.enableReturnName, Builtin.peekStackName, Builtin.popStackName]

theorem templateName_mem_delegateNames (d : Delegation) :
    d.templateName ∈ delegateNames := by
  cases d <;> decide

theorem extendedBy_of_isPrefix (h : c.templates <+: c'.templates) :
    c.ExtendedBy c' :=
  fun _ _ hu => find?_mono h.subset hu

/-- Where all names that are delegated to are known, further templates change
nothing for delegations. -/
theorem extendedBy_of_known (h : c.templates <+: c'.templates)
    (hknown : ∀ name ∈ delegateNames, (c.find? name).isSome) :
    c'.ExtendedBy c := by
  intro d u hu
  obtain ⟨u', hu'⟩ := Option.isSome_iff_exists.mp
    (hknown _ (templateName_mem_delegateNames d))
  obtain rfl : u = u' :=
    Option.some.inj (hu.symm.trans (find?_mono h.subset hu'))
  exact hu'

theorem known_of_builtin (hc : Builtin.templates ⊆ c.templates) {name : String}
    (hname : name ∈ delegateNames) : (c.find? name).isSome := by
  have hbuiltin : ∀ name ∈ delegateNames,
      (Builtin.catalog.find? name).isSome := by
    decide
  obtain ⟨u, hu⟩ := Option.isSome_iff_exists.mp (hbuiltin name hname)
  exact Option.isSome_iff_exists.mpr ⟨u, find?_mono hc hu⟩

theorem isPrefix_bound (h : c.templates <+: c'.templates) :
    c.bound <+: c'.bound :=
  h.filter _

theorem isPrefix_located (h : c.templates <+: c'.templates) (body : Body) :
    c.located locate? body <+: c'.located locate? body :=
  (isPrefix_bound h).filter _

end Catalog

/-- Of two bindings to one opcode, the second is the first if the templates that
are located for it begin with those for the first. -/
theorem Outcome.Follows.binding_eq {c c' : Catalog}
    {locate? : Template → Body → Option Nat} {id : HandlerId} {body : Body}
    {b b' : Binding} (h : Outcome.Follows c locate? id body (.bound b))
    (h' : Outcome.Follows c' locate? id body (.bound b'))
    (hlocated : c.located locate? body <+: c'.located locate? body)
    (hopcode : b'.opcode = b.opcode) : b' = b := by
  obtain ⟨t, rest, hcons, -, hposition, hid, hname, hverified⟩ :=
    (h.bound b).mp rfl
  obtain ⟨t', rest', hcons', -, hposition', hid', hname', hverified'⟩ :=
    (h'.bound b').mp rfl
  rw [hcons, hcons'] at hlocated
  obtain ⟨rfl, -⟩ := List.cons_prefix_cons.mp hlocated
  have hat : b'.position = b.position :=
    Option.some.inj (hposition'.symm.trans hposition)
  obtain ⟨handler, opcode, template, position, isVerified⟩ := b
  obtain ⟨handler', opcode', template', position', isVerified'⟩ := b'
  simp only at hid hid' hname hname' hverified hverified' hat hopcode
  subst hid hid' hname hname' hverified hverified' hat hopcode
  rfl

namespace Resolver

variable {c c' : Catalog}

theorem resolveOne_grows_of_isPrefix (h : c.templates <+: c'.templates)
    (s : Store) (config : Config) (g : Handler) :
    ((Resolver.mk c s config).resolveOne g).Grows
      ((Resolver.mk c' s config).resolveOne g) := by
  refine resolveOne_grows ?_ ?_ g
  · exact (Catalog.isPrefix_bound h).subset
  · exact ⟨rfl, Catalog.extendedBy_of_isPrefix h, Nat.le_refl _⟩

/-- Further templates leave a handler bound to its opcode or make it ambiguous
with it, and they leave an ambiguous one ambiguous between at least the same
opcodes. A handler that stays bound keeps its binding, if the names that
verifiers delegate to were all known before, as they are where the built-in
templates are registered. -/
theorem resolveOne_extended (h : c.templates <+: c'.templates) (s : Store)
    (config : Config) (g : Handler) :
    ((Resolver.mk c s config).resolveOne g).Grows
        ((Resolver.mk c' s config).resolveOne g) ∧
      ((∀ name ∈ Catalog.delegateNames, (c.find? name).isSome) →
        ∀ b b', (Resolver.mk c s config).resolveOne g = .bound b →
          (Resolver.mk c' s config).resolveOne g = .bound b' → b' = b) ∧
      (Builtin.templates ⊆ c.templates →
        ∀ name ∈ Catalog.delegateNames, (c.find? name).isSome) := by
  have hgrows := resolveOne_grows_of_isPrefix h s config g
  refine ⟨hgrows, ?_, fun hc name => Catalog.known_of_builtin hc⟩
  intro hknown b b' hb hb'
  have haccepts := accepts_eq_of_catalogs (Catalog.extendedBy_of_isPrefix h)
    (Catalog.extendedBy_of_known h hknown) s config
  have hfollows := (Resolver.mk c s config).follows_locate? g
  have hfollows' := (Resolver.mk c' s config).follows_locate? g
  rw [← Environment.locate?_congr haccepts] at hfollows'
  have hopcode : b'.opcode = b.opcode := by
    rcases hgrows.bound b hb with ⟨b'', hb'', hopcode⟩ | ⟨opcodes, ho, -⟩
    · obtain rfl := Outcome.bound.inj (hb'.symm.trans hb'')
      exact hopcode
    · simp [ho] at hb'
  rw [hb] at hfollows
  rw [hb'] at hfollows'
  rcases hfollows.both hfollows' with ⟨-, ho | ho⟩ | ⟨body, -, hbody, hbody'⟩
  · simp at ho
  · simp at ho
  · exact hbody.binding_eq hbody' (Catalog.isPrefix_located h body) hopcode

/-- A template that delegates to an unknown name is refused, and a later one
binds the handler. Once the name is known, the handler is bound by the earlier
one, to the same opcode. -/
theorem resolveOne_extended_by_delegate :
    let early := (Template.window "Early" (some .nop) [.ldarg0,
      .callvirt]).verifiedBy (.delegation .endsInterpreter)
    let late := Template.window "Late" (some .nop) [.ldarg0]
    let delegate := Template.window Builtin.enableReturnName none [.ret]
    let c : Catalog := ⟨[early, late], by decide⟩
    let c' : Catalog := ⟨[early, late, delegate], by decide⟩
    let helper := Token.ofParts Token.methodTable 1
    let s : Store := ⟨.ofList [.method ⟨helper, "", none, ⟨none, []⟩,
      some [⟨0, .ret, .none⟩]⟩], by decide⟩
    let g : Handler :=
      ⟨⟨7⟩, some [⟨0, .ldarg0, .none⟩, ⟨1, .callvirt, .token helper⟩]⟩
    c.templates <+: c'.templates ∧
      (Resolver.mk c s .standard).resolveOne g =
        .bound ⟨⟨7⟩, .nop, "Late", 0, false⟩ ∧
      (Resolver.mk c' s .standard).resolveOne g =
        .bound ⟨⟨7⟩, .nop, "Early", 0, true⟩ ∧
      ((Resolver.mk c s .standard).resolveOne g).Grows
        ((Resolver.mk c' s .standard).resolveOne g) := by
  intro early late delegate c c' helper s g
  have hmore : c.templates <+: c'.templates := ⟨[delegate], rfl⟩
  exact ⟨hmore, by decide, by decide,
    (resolveOne_extended hmore s .standard g).1⟩

end Resolver

end HandlerRecognition
