import HandlerRecognition.Matching.Search
import HandlerRecognition.Resolution.Batch
import HandlerRecognition.Resolution.Config
import HandlerRecognition.Resolution.Outcome

/-!
# Resolving handlers

A `Resolver` tries every template that has a target on a handler. If the
accepted templates agree on the target, the handler is bound to it by the first
of them. If they disagree, the handler is ambiguous. If none is accepted, it is
unresolved, and the templates whose shape fits are named.

Verifiers enter only through a decision on whether one holds in an environment,
and `Resolver.resolveOneBy` leaves open what that decision is.
`Resolver.resolveOne` takes the one of `Environment.verifies`.

In a batch, identifiers under which different bodies were submitted are recorded
first, and the other handlers are then resolved. They may be spread over several
workers, each of which has one handler.
-/

namespace HandlerRecognition

/-- Everything that the outcome of a handler depends on. -/
structure Resolver where
  catalog : Catalog
  store : Store
  config : Config

/-- A template that was tried on a handler, and what came of it. -/
structure Trial where
  target : Opcode
  template : Template
  attempt : Attempt

/-- A template that was accepted, with its target and the position. -/
structure Candidate where
  target : Opcode
  template : Template
  position : Nat

namespace Trial

def candidate? (trial : Trial) : Option Candidate :=
  match trial.attempt with
  | .matched position => some ⟨trial.target, trial.template, position⟩
  | _ => none

def refusedName? (trial : Trial) : Option String :=
  if trial.attempt = .refused then some trial.template.name else none

/-- The templates that were accepted, in order. -/
def candidates (trials : List Trial) : List Candidate :=
  trials.filterMap candidate?

/-- The targets of the accepted templates, without repetition, in opcode
order. -/
def targets (trials : List Trial) : List Opcode :=
  Opcode.sorted ((candidates trials).map Candidate.target)

/-- The names of the templates that a verifier refused, in order. -/
def refusedNames (trials : List Trial) : List String :=
  trials.filterMap refusedName?

end Trial

/-- The trials of those templates of a list that have a target, in order, under
a decision on verifiers. -/
def Matcher.trials (verifies : Matcher) (body : Body)
    (templates : List Template) : List Trial :=
  templates.filterMap fun t =>
    t.target?.map fun target => ⟨target, t, verifies.attempt t body⟩

/-- The outcome that a list of trials leads to. -/
def Outcome.ofTrials (id : HandlerId) (trials : List Trial) : Outcome :=
  if 1 < (Trial.targets trials).length then
    .ambiguous (Trial.targets trials)
  else
    match Trial.candidates trials with
    | c :: _ =>
      .bound ⟨id, c.target, c.template.name, c.position, c.template.isVerified⟩
    | [] =>
      if (Trial.refusedNames trials).isEmpty then .unresolved .noMatch
      else .unresolved (.rejected (Trial.refusedNames trials))

namespace Resolver

def new (catalog : Catalog) (store : Store) : Resolver :=
  ⟨catalog, store, .standard⟩

def environment (r : Resolver) : Environment :=
  (Environment.top r.catalog r.store).withMaxDepth r.config.maxDepth

/-- The trials of all templates that can bind a handler, in order, under a
decision on verifiers. -/
def trialsBy (r : Resolver) (verifies : Environment → Matcher) (body : Body) :
    List Trial :=
  (verifies r.environment).trials body r.catalog.bound

/-- The outcome of a handler under a decision on verifiers. -/
def resolveOneBy (r : Resolver) (verifies : Environment → Matcher)
    (h : Handler) : Outcome :=
  match h.body? with
  | none => .unresolved .missingBody
  | some body =>
    if body.isEmpty then .unresolved .emptyBody
    else .ofTrials h.id (r.trialsBy verifies body)

def trials (r : Resolver) (body : Body) : List Trial :=
  r.trialsBy Environment.verifies body

/-- The outcome of a handler. -/
def resolveOne (r : Resolver) (h : Handler) : Outcome :=
  r.resolveOneBy Environment.verifies h

def entry (r : Resolver) (h : Handler) : HandlerId × Outcome :=
  (h.id, r.resolveOne h)

/-- The outcomes of handlers, found by several workers or by one. They are in the
order in which the handlers were submitted, whatever the workers do. -/
def entries (r : Resolver) (handlers : List Handler) :
    List (HandlerId × Outcome) :=
  if r.config.isParallel then
    (handlers.map fun h => Task.spawn fun _ => r.entry h).map Task.get
  else handlers.map r.entry

def resolveBatch (r : Resolver) (b : Batch) : Resolution :=
  (Resolution.empty.recordAll
    (b.conflicts.map fun id => (id, .unresolved .duplicateId))).recordAll
      (r.entries b.accepted)

def resolve (r : Resolver) (handlers : List Handler) : Resolution :=
  r.resolveBatch (.ofHandlers handlers)

end Resolver

end HandlerRecognition
