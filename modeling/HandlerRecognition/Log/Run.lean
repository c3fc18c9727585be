import HandlerRecognition.Log.Event
import HandlerRecognition.Matching.Refusal
import HandlerRecognition.Resolution.Resolver

/-!
# What is logged

The events of a run, in the order in which they happen. A batch first reports
conflicting submissions, then announces itself, then reports handler by handler
what was tried and what came of it, and last sums up.

What verifiers decide and how often they are refused a delegation enters as a
`Verification`, which is left open at first. `Environment.verification` is what they
do in the environments at hand.
-/

namespace HandlerRecognition

namespace Catalog

def log (c : Catalog) : List Event :=
  [.catalogBuilt c.size c.targets.length]

end Catalog

namespace Environment

/-- The events of a number of refusals. -/
def refusalLog (env : Environment) (refusals : Nat) : List Event :=
  List.replicate refusals (.depthLimit env.maxDepth)

/-- The events of going one helper method deeper. -/
def descendLog (env : Environment) : List Event :=
  match env.descend? with
  | some _ => []
  | none => env.refusalLog 1

/-- The events of up to `n` descents, the last of which may fail. -/
def descentsLog (env : Environment) : Nat → List Event
  | 0 => []
  | n + 1 =>
    match env.descend? with
    | some deeper => deeper.descentsLog n
    | none => env.descendLog

/-- The events of locating a template in a body, whatever verifiers do. -/
def locateLogBy (env : Environment) (v : Verification) (t : Template)
    (body : Body) : List Event :=
  env.refusalLog (v.attemptRefusals env t body)

/-- The events of locating a template in a body. -/
def locateLog (env : Environment) : Template → Body → List Event :=
  env.locateLogBy verification

theorem locateLog_apply (env : Environment) (t : Template) (body : Body) :
    env.locateLog t body = env.refusalLog (env.attemptRefusals t body) := rfl

end Environment

namespace Trial

/-- The event of a trial, if it is worth one. -/
def event? (id : HandlerId) (trial : Trial) : Option Event :=
  match trial.attempt with
  | .matched position => some (.matched id trial.template.name position)
  | .refused => some (.rejected id trial.template.name)
  | .absent => none

end Trial

/-- The event of an outcome that trials led to, if it is worth one. -/
def Outcome.event? (id : HandlerId) (trials : List Trial) :
    Outcome → Option Event
  | .bound b => some (.bound id b.opcode b.template)
  | .ambiguous _ =>
    some (.ambiguous id
      ((Trial.candidates trials).map fun c => c.template.name))
  | .unresolved _ => none

/-- The log of a batch, given the lines of the handlers and what came of them. -/
def Batch.log (b : Batch) (lines : Handler → List Event) (templates : Nat)
    (isParallel : Bool) (res : Resolution) : List Event :=
  b.conflicts.map .conflict ++
    .batch b.accepted.length templates isParallel ::
    b.accepted.flatMap lines ++ [.finished res.summary]

namespace Resolver

/-- The events of a trial on a body, whatever verifiers do. -/
def trialLogBy (r : Resolver) (v : Verification) (id : HandlerId) (body : Body)
    (trial : Trial) : List Event :=
  r.environment.locateLogBy v trial.template body ++ (trial.event? id).toList

/-- The events of resolving a body that is not empty, whatever verifiers do. -/
def trialsLogBy (r : Resolver) (v : Verification) (id : HandlerId)
    (body : Body) : List Event :=
  let trials := r.trialsBy v.holds body
  trials.flatMap (r.trialLogBy v id body) ++
    ((Outcome.ofTrials id trials).event? id trials).toList

/-- The events of resolving a handler, whatever verifiers do. -/
def resolveOneLogBy (r : Resolver) (v : Verification) (h : Handler) :
    List Event :=
  match h.body? with
  | none => [.noBody h.id]
  | some body =>
    if body.isEmpty then [.emptyBody h.id] else r.trialsLogBy v h.id body

def trialLog (r : Resolver) : HandlerId → Body → Trial → List Event :=
  r.trialLogBy Environment.verification

theorem trialLog_apply (r : Resolver) (id : HandlerId) (body : Body)
    (trial : Trial) :
    r.trialLog id body trial = r.environment.locateLog trial.template body ++
      (trial.event? id).toList := rfl

def trialsLog (r : Resolver) : HandlerId → Body → List Event :=
  r.trialsLogBy Environment.verification

theorem trialsLog_apply (r : Resolver) (id : HandlerId) (body : Body) :
    r.trialsLog id body = (r.trials body).flatMap (r.trialLog id body) ++
      ((Outcome.ofTrials id (r.trials body)).event? id
        (r.trials body)).toList := rfl

def resolveOneLog (r : Resolver) : Handler → List Event :=
  r.resolveOneLogBy Environment.verification

def resolveLog (r : Resolver) (handlers : List Handler) : List Event :=
  (Batch.ofHandlers handlers).log r.resolveOneLog r.catalog.size
    r.config.isParallel (r.resolve handlers)

end Resolver

end HandlerRecognition
