import HandlerRecognition.Log.Run
import HandlerRecognition.Proofs.Matching.Agreement

/-!
# What an outcome may depend on

Of a body, the outcome of a handler depends on the opcodes and on the tokens of
methods, members and fields. If the bodies of a store and of a handler are
replaced by similar ones, the outcome stays the same, and so do the events that
are logged. This holds at every depth, so the helpers of helpers may be replaced
as well.

The opcodes may be replaced too where no template of the catalog tells them
apart.
-/

namespace HandlerRecognition

variable {S : Opcode → Opcode → Prop}

/-- The same identifier, and similar bodies or none. -/
structure Handler.SimilarUpTo (S : Opcode → Opcode → Prop) (g h : Handler) :
    Prop where
  id : g.id = h.id
  body? : Option.Rel (Body.SimilarUpTo S) g.body? h.body?

abbrev Handler.Similar : Handler → Handler → Prop :=
  SimilarUpTo (· = ·)

/-- The same catalog and configuration, and similar stores. -/
structure Resolver.SimilarUpTo (S : Opcode → Opcode → Prop) (r r' : Resolver) :
    Prop where
  catalog : r.catalog = r'.catalog
  store : r.store.SimilarUpTo S r'.store
  config : r.config = r'.config

namespace Resolver

theorem SimilarUpTo.refl (hS : ∀ o, S o o) (r : Resolver) :
    SimilarUpTo S r r :=
  ⟨rfl, .refl hS r.store, rfl⟩

theorem SimilarUpTo.environment {r r' : Resolver} (h : r.SimilarUpTo S r') :
    r.environment.SimilarUpTo S r'.environment where
  catalog := h.catalog
  store := h.store
  depth := rfl
  maxDepth := congrArg Config.maxDepth h.config

section Indifferent

variable {r r' : Resolver} {a b : Body} {t : Template}

theorem attempt_eq_of_similarUpTo (hr : r.SimilarUpTo S r')
    (hc : ∀ t ∈ r.catalog.templates, t.Indifferent S) (h : a.SimilarUpTo S b)
    (ht : t ∈ r.catalog.templates) :
    Matcher.attempt r.environment.verifies t a =
      Matcher.attempt r'.environment.verifies t b :=
  (Site.simulation_similarUpTo S).attempt_eq (hc t ht) h.length_eq
    fun _ => ⟨⟨hr.environment, rfl, h⟩, hc⟩

theorem attemptRefusals_eq_of_similarUpTo (hr : r.SimilarUpTo S r')
    (hc : ∀ t ∈ r.catalog.templates, t.Indifferent S) (h : a.SimilarUpTo S b)
    (ht : t ∈ r.catalog.templates) :
    r.environment.attemptRefusals t a = r'.environment.attemptRefusals t b :=
  (Site.simulation_similarUpTo S).attemptRefusals_eq (hc t ht) h.length_eq
    fun _ => ⟨⟨hr.environment, rfl, h⟩, hc⟩

theorem trials_eq_of_similarUpTo (hr : r.SimilarUpTo S r')
    (hc : ∀ t ∈ r.catalog.templates, t.Indifferent S)
    (h : a.SimilarUpTo S b) : r.trials a = r'.trials b := by
  rw [trials, trials, trialsBy, trialsBy, Matcher.trials, Matcher.trials,
    ← hr.catalog]
  refine List.filterMap_congr fun t ht => ?_
  rw [attempt_eq_of_similarUpTo hr hc h (List.mem_filter.mp ht).1]

theorem resolveOne_eq_of_similarUpTo (hr : r.SimilarUpTo S r')
    (hc : ∀ t ∈ r.catalog.templates, t.Indifferent S) {g h : Handler}
    (hh : g.SimilarUpTo S h) : r.resolveOne g = r'.resolveOne h := by
  have hbody := hh.body?
  rw [resolveOne, resolveOne, resolveOneBy, resolveOneBy, hh.id]
  generalize g.body? = a? at hbody ⊢
  generalize h.body? = b? at hbody ⊢
  cases hbody with
  | none => rfl
  | some hab =>
      have htrials := trials_eq_of_similarUpTo hr hc hab
      rw [trials, trials] at htrials
      simp only [hab.isEmpty_eq, htrials]

/-- Each trial is logged with the refusals that it took. -/
theorem trialsLog_eq_of_similarUpTo (hr : r.SimilarUpTo S r')
    (hc : ∀ t ∈ r.catalog.templates, t.Indifferent S) (h : a.SimilarUpTo S b)
    (id : HandlerId) : r.trialsLog id a = r'.trialsLog id b := by
  have htrial (trial : Trial) (hmem : trial ∈ r.trials a) :
      r.trialLog id a trial = r'.trialLog id b trial := by
    obtain ⟨t, ht, hsome⟩ := List.mem_filterMap.mp hmem
    obtain ⟨target, -, rfl⟩ := Option.map_eq_some_iff.mp hsome
    have hrefusals := attemptRefusals_eq_of_similarUpTo hr hc h
      (List.mem_filter.mp ht).1
    rw [trialLog_apply, trialLog_apply, Environment.locateLog_apply,
      Environment.locateLog_apply, Environment.refusalLog,
      Environment.refusalLog, hr.environment.maxDepth, hrefusals]
  rw [trialsLog_apply, trialsLog_apply, List.flatMap_congr htrial,
    trials_eq_of_similarUpTo hr hc h]

theorem resolveOneLog_eq_of_similarUpTo (hr : r.SimilarUpTo S r')
    (hc : ∀ t ∈ r.catalog.templates, t.Indifferent S) {g h : Handler}
    (hh : g.SimilarUpTo S h) : r.resolveOneLog g = r'.resolveOneLog h := by
  have hbody := hh.body?
  rw [resolveOneLog, resolveOneLog, resolveOneLogBy, resolveOneLogBy, hh.id]
  generalize g.body? = a? at hbody ⊢
  generalize h.body? = b? at hbody ⊢
  cases hbody with
  | none => rfl
  | some hab =>
      have hlog := trialsLog_eq_of_similarUpTo hr hc hab h.id
      rw [trialsLog, trialsLog] at hlog
      simp only [hab.isEmpty_eq, hlog]

end Indifferent

/-- Outcomes do not tell similar stores and similar handlers apart, whatever the
catalog and the bound on the depth. -/
theorem resolveOne_similar (c : Catalog) (config : Config) {s s' : Store}
    {g h : Handler} (hstore : s.Similar s') (hhandler : g.Similar h) :
    (Resolver.mk c s config).resolveOne g =
      (Resolver.mk c s' config).resolveOne h := by
  have hr : (Resolver.mk c s config).SimilarUpTo (· = ·)
      (Resolver.mk c s' config) := ⟨rfl, hstore, rfl⟩
  exact resolveOne_eq_of_similarUpTo hr (fun t _ => t.indifferent_eq) hhandler

/-- A handler that calls a helper which sets a flag. Offsets differ in both, and
so do operands that are not tokens. -/
theorem resolveOne_similar_offsets :
    let helper : Token := .ofParts Token.methodTable 1
    let flag : FieldRecord :=
      ⟨.ofParts Token.fieldTable 1, "", Inspection.booleanName, none⟩
    let store (offset : UInt32) (value : Operand) : RecordSet :=
      .ofList [.field flag, .method ⟨helper, "", none, ⟨none, []⟩,
        some [⟨0, .ldarg0, .none⟩, ⟨offset, .ldcI41, value⟩,
          ⟨6, .stfld, .token flag.token⟩, ⟨11, .ret, .none⟩]⟩]
    let s : Store := ⟨store 1 .none, by decide⟩
    let s' : Store := ⟨store 2 (.immediate (.int32 1)), by decide⟩
    let handler (operand : Operand) : Handler :=
      ⟨⟨5⟩, some [⟨0, .ldarg0, operand⟩, ⟨1, .callvirt, .token helper⟩,
        ⟨6, .ret, .none⟩]⟩
    s.Similar s' ∧ (handler .none).Similar (handler (.argument 0)) ∧
      (Resolver.new Builtin.catalog s).resolveOne (handler .none) =
        (Resolver.new Builtin.catalog s').resolveOne (handler (.argument 0)) ∧
      (Resolver.new Builtin.catalog s).resolveOne (handler .none) =
        .bound ⟨⟨5⟩, .ret, Builtin.retName, 0, true⟩ := by
  intro helper flag store s s' handler
  have hstore : s.Similar s' := by
    refine .of_forall₂ (.cons ⟨rfl, rfl, rfl, rfl, .some ?_⟩ .nil) rfl rfl rfl
    exact .cons (.refl (fun _ => rfl) _) <| .cons ⟨rfl, rfl, rfl, rfl⟩ <|
      Body.SimilarUpTo.refl (fun _ => rfl) _
  have hhandler : (handler .none).Similar (handler (.argument 0)) := by
    refine ⟨rfl, .some (.cons ⟨rfl, rfl, rfl, rfl⟩ ?_)⟩
    exact Body.SimilarUpTo.refl (fun _ => rfl) _
  exact ⟨hstore, hhandler,
    resolveOne_similar Builtin.catalog .standard hstore hhandler, by decide⟩

end Resolver

end HandlerRecognition
