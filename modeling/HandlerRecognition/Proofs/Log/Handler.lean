import HandlerRecognition.Log.Run
import HandlerRecognition.Proofs.Catalog.Lookup
import HandlerRecognition.Proofs.Resolution.Trials

/-!
# What is logged for a handler

The lines of a handler are traces of its trials, and behind them comes at most
one line on its outcome. `Outcome.IsLoggedBy` says what the lines are for each
outcome. The traces name the templates that were accepted and those that were
refused, in the order of the trials. They may also tell of delegations that were
refused at the bound on the depth, but only for a template whose shape fits, so
a handler that no shape fits is not mentioned at all. There is one such trace for
each refusal (`Resolver.filterMap_limit?_resolveOneLogBy`).

All of this holds whatever verifiers decide and however often they are refused a
delegation.
-/

namespace HandlerRecognition

namespace Event

/-- The handler that an event names. -/
def handler? : Event → Option HandlerId
  | .conflict id | .noBody id | .emptyBody id | .matched id _ _
  | .rejected id _ | .ambiguous id _ | .bound id _ _ => some id
  | .catalogBuilt _ _ | .batch _ _ _ | .depthLimit _ | .finished _ => none

/-- The template that an event reports as accepted. -/
def matchedName? : Event → Option String
  | .matched _ template _ => some template
  | _ => none

/-- The template that an event reports as refused. -/
def rejectedName? : Event → Option String
  | .rejected _ template => some template
  | _ => none

/-- The bound that an event reports as reached. -/
def limit? : Event → Option Nat
  | .depthLimit n => some n
  | _ => none

/-- A trace that names a handler, or none because the bound on the depth was
reached. -/
def IsTraceOf (id : HandlerId) (e : Event) : Prop :=
  e.level = .trace ∧ (e.handler? = some id ∨ ∃ n, e = .depthLimit n)

end Event

/-- The lines that are logged for a handler with an outcome. -/
def Outcome.IsLoggedBy (id : HandlerId) (lines : List Event) : Outcome → Prop
  | .bound b => ∃ traces, (∀ e ∈ traces, e.IsTraceOf id) ∧
      lines = traces ++ [.bound id b.opcode b.template]
  | .ambiguous _ => ∃ traces, (∀ e ∈ traces, e.IsTraceOf id) ∧
      lines = traces ++ [.ambiguous id (traces.filterMap Event.matchedName?)]
  | .unresolved (.rejected names) => (∀ e ∈ lines, e.IsTraceOf id) ∧
      lines.filterMap Event.rejectedName? = names
  | .unresolved .noMatch => lines = []
  | .unresolved .missingBody => lines = [.noBody id]
  | .unresolved .emptyBody => lines = [.emptyBody id]
  | .unresolved .duplicateId => False

section Refusals

variable {t : Template} {body : Body}

theorem mem_of_mem_positionsUntil {accepts : Nat → Bool} {p : Nat}
    {positions : List Nat} (hp : p ∈ positionsUntil accepts positions) :
    p ∈ positions := by
  induction positions with
  | nil => exact hp
  | cons q qs ih =>
      rw [positionsUntil, List.mem_cons] at hp
      rcases hp with rfl | hp
      · exact List.mem_cons_self
      · split at hp
        · simp at hp
        · exact List.mem_cons_of_mem q (ih hp)

/-- Where the shape fits nowhere, no verifier runs. -/
theorem Matcher.refusals_eq_zero (verifies : Matcher) (refusals : Tally)
    (h : t.fitsSomewhere body = false) :
    verifies.refusals refusals t body = 0 := by
  have hfits : (positionsUntil (fun p => t.fitsAt body p && verifies t body p)
      (t.anchor.span body.length).positions).filter (t.fitsAt body) = [] := by
    refine List.filter_eq_nil_iff.mpr fun p hp => ?_
    exact List.any_eq_false.mp h p (mem_of_mem_positionsUntil hp)
  rw [Matcher.refusals, Tally.total, hfits]
  rfl

theorem Trial.filterMap_limit?_event? (id : HandlerId) (trial : Trial) :
    (trial.event? id).toList.filterMap Event.limit? = [] := by
  rw [event?]
  cases trial.attempt <;> rfl

theorem Outcome.filterMap_limit?_event? (id : HandlerId) (trials : List Trial)
    (outcome : Outcome) :
    (outcome.event? id trials).toList.filterMap Event.limit? = [] := by
  cases outcome <;> rfl

theorem Environment.filterMap_limit?_refusalLog (env : Environment) (n : Nat) :
    (env.refusalLog n).filterMap Event.limit? = List.replicate n env.maxDepth :=
  List.filterMap_replicate_of_some rfl

end Refusals

namespace Resolver

variable (r : Resolver) (v : Verification)

section Trials

variable {r v} {id : HandlerId} {body : Body} {trials : List Trial}

theorem isTraceOf_of_mem_trialLogBy {trial : Trial} {e : Event}
    (he : e ∈ r.trialLogBy v id body trial) : e.IsTraceOf id := by
  rcases List.mem_append.mp he with he | he
  · obtain rfl := List.eq_of_mem_replicate he
    exact ⟨rfl, Or.inr ⟨_, rfl⟩⟩
  · rw [Option.mem_toList, Trial.event?] at he
    split at he
    · obtain rfl := Option.some.inj he
      exact ⟨rfl, Or.inl rfl⟩
    · obtain rfl := Option.some.inj he
      exact ⟨rfl, Or.inl rfl⟩
    · simp at he

/-- What is read off the traces comes from the trials, in their order. -/
theorem filterMap_traces {read : Event → Option String}
    {name? : Trial → Option String} (hlimit : ∀ n, read (.depthLimit n) = none)
    (hread : ∀ trial, (Trial.event? id trial).bind read = name? trial) :
    (trials.flatMap (r.trialLogBy v id body)).filterMap read =
      trials.filterMap name? := by
  have hrefusals (env : Environment) (n : Nat) :
      (env.refusalLog n).filterMap read = [] := by
    refine List.filterMap_eq_nil_iff.mpr fun e he => ?_
    rw [List.eq_of_mem_replicate he, hlimit]
  induction trials with
  | nil => rfl
  | cons trial trials ih =>
      rw [List.flatMap_cons, List.filterMap_append, ih, trialLogBy,
        Environment.locateLogBy, List.filterMap_append, hrefusals, List.nil_append, List.filterMap_cons,
        ← hread]
      cases trial.event? id with
      | none => rfl
      | some e => cases h : read e <;> simp [h]

/-- The traces name the accepted templates in the order of the trials. -/
theorem filterMap_matchedName? :
    (trials.flatMap (r.trialLogBy v id body)).filterMap Event.matchedName? =
      (Trial.candidates trials).map fun c => c.template.name := by
  rw [Trial.candidates, List.map_filterMap]
  refine filterMap_traces (fun _ => rfl) fun trial => ?_
  rw [Trial.event?, Trial.candidate?]
  cases trial.attempt <;> rfl

/-- The traces name the refused templates in the order of the trials. -/
theorem filterMap_rejectedName? :
    (trials.flatMap (r.trialLogBy v id body)).filterMap Event.rejectedName? =
      Trial.refusedNames trials := by
  refine filterMap_traces (fun _ => rfl) fun trial => ?_
  rw [Trial.event?, Trial.refusedName?]
  cases trial.attempt <;> rfl

/-- A trial that found no shape leaves no trace. -/
theorem trialLogBy_eq_nil {t : Template} {target : Opcode}
    (h : (v.holds r.environment).attempt t body = .absent) :
    r.trialLogBy v id body ⟨target, t, .absent⟩ = [] := by
  rw [Matcher.attempt_eq] at h
  have hfits : t.fitsSomewhere body = false := by
    split at h
    · simp at h
    · split at h
      · simp at h
      · rename_i hfits
        exact Bool.eq_false_iff.mpr hfits
  rw [trialLogBy, Environment.locateLogBy, Verification.attemptRefusals,
    Matcher.refusals_eq_zero _ _ hfits]
  rfl

/-- Where no template is accepted and none is refused, nothing is traced. -/
theorem traces_eq_nil
    (hcandidates : Trial.candidates (r.trialsBy v.holds body) = [])
    (hrefused : Trial.refusedNames (r.trialsBy v.holds body) = []) :
    (r.trialsBy v.holds body).flatMap (r.trialLogBy v id body) = [] := by
  refine List.flatMap_eq_nil_iff.mpr fun trial htrial => ?_
  have hmatched := List.filterMap_eq_nil_iff.mp hcandidates trial htrial
  have hrejected := List.filterMap_eq_nil_iff.mp hrefused trial htrial
  obtain ⟨t, -, hsome⟩ := List.mem_filterMap.mp htrial
  obtain ⟨target, -, rfl⟩ := Option.map_eq_some_iff.mp hsome
  cases hattempt : (v.holds r.environment).attempt t body with
  | absent => exact trialLogBy_eq_nil hattempt
  | refused => simp [Trial.refusedName?, hattempt] at hrejected
  | matched p => simp [Trial.candidate?, hattempt] at hmatched

/-- One message for each refusal, template by template. -/
theorem filterMap_limit?_traces {templates : List Template}
    (h : ∀ t ∈ templates, t.target?.isSome) (attempts : Matcher) :
    ((attempts.trials body templates).flatMap
        (r.trialLogBy v id body)).filterMap Event.limit? =
      templates.flatMap fun t =>
        List.replicate (v.attemptRefusals r.environment t body)
          r.config.maxDepth := by
  induction templates with
  | nil => rfl
  | cons t templates ih =>
      obtain ⟨target, htarget⟩ :=
        Option.isSome_iff_exists.mp (h t List.mem_cons_self)
      have hrest := ih fun t' ht' => h t' (List.mem_cons_of_mem _ ht')
      rw [attempts.trials_cons_of_target body htarget, List.flatMap_cons,
        List.filterMap_append, hrest, trialLogBy, List.filterMap_append,
        Trial.filterMap_limit?_event?, List.append_nil, Environment.locateLogBy,
        Environment.filterMap_limit?_refusalLog, List.flatMap_cons]
      rfl

end Trials

/-- The bound on the depth, once for each refusal while the templates that can bind a
handler are located in a body. -/
def limitsBy (body : Body) : List Nat :=
  r.catalog.bound.flatMap fun t =>
    List.replicate (v.attemptRefusals r.environment t body) r.config.maxDepth

theorem limitsBy_nil : r.limitsBy v [] = [] := by
  refine List.flatMap_eq_nil_iff.mpr fun t ht => ?_
  have hslots := Catalog.length_pos_of_mem (List.mem_filter.mp ht).1
  have hfits : t.fitsSomewhere [] = false := by
    refine Bool.eq_false_iff.mpr fun h => ?_
    obtain ⟨p, -, hp⟩ := Template.exists_fitsAt_of_fitsSomewhere h
    have hroom : p + t.length ≤ 0 := Template.add_length_le_of_fitsAt hp
    omega
  rw [Verification.attemptRefusals, Matcher.refusals_eq_zero _ _ hfits,
    List.replicate_zero]

/-- What is logged for a handler whose body is not empty. -/
theorem isLoggedBy_trialsLogBy (id : HandlerId) (body : Body) :
    (Outcome.ofTrials id (r.trialsBy v.holds body)).IsLoggedBy id
      (r.trialsLogBy v id body) := by
  have htraces : ∀ e ∈ (r.trialsBy v.holds body).flatMap
      (r.trialLogBy v id body), e.IsTraceOf id := by
    intro e he
    obtain ⟨trial, -, he⟩ := List.mem_flatMap.mp he
    exact isTraceOf_of_mem_trialLogBy he
  rw [trialsLogBy]
  rcases Outcome.ofTrials_cases id (r.trialsBy v.holds body) with
    ⟨-, ho⟩ | ⟨c, cs, -, -, ho⟩ | ⟨hcandidates, hrefused, ho⟩ |
      ⟨-, -, ho⟩ <;> simp only [ho]
  · refine ⟨_, htraces, ?_⟩
    rw [filterMap_matchedName?]
    rfl
  · exact ⟨_, htraces, rfl⟩
  · rw [traces_eq_nil hcandidates hrefused]
    rfl
  · rw [Outcome.event?, Option.toList_none, List.append_nil]
    exact ⟨htraces, filterMap_rejectedName?⟩

/-- What is logged for a handler, whatever verifiers do. -/
theorem isLoggedBy_resolveOneLogBy (h : Handler) :
    (r.resolveOneBy v.holds h).IsLoggedBy h.id (r.resolveOneLogBy v h) := by
  obtain ⟨id, body?⟩ := h
  cases body? with
  | none => rfl
  | some body =>
      cases body with
      | nil => rfl
      | cons i is => exact r.isLoggedBy_trialsLogBy v id (i :: is)

/-- A handler is logged to have reached the bound on the depth as often as its
verifiers are refused a delegation, and where it has no instructions, never. -/
theorem filterMap_limit?_resolveOneLogBy (h : Handler) :
    (r.resolveOneLogBy v h).filterMap Event.limit? =
      r.limitsBy v (h.body?.getD []) := by
  obtain ⟨id, body?⟩ := h
  cases body? with
  | none => exact (r.limitsBy_nil v).symm
  | some body =>
      cases body with
      | nil => exact (r.limitsBy_nil v).symm
      | cons i is =>
          have hlog : r.resolveOneLogBy v ⟨id, some (i :: is)⟩ =
              r.trialsLogBy v id (i :: is) := rfl
          rw [hlog, trialsLogBy, List.filterMap_append,
            Outcome.filterMap_limit?_event?, List.append_nil, trialsBy,
            filterMap_limit?_traces fun _ => Catalog.isSome_target?_of_mem_bound]
          rfl

end Resolver

end HandlerRecognition
