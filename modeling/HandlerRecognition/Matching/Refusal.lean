import HandlerRecognition.Matching.Search

/-!
# Delegations refused at the bound

A delegation that would go deeper than the environment allows is refused, and
each refusal is worth a message. `Environment.refusals` counts the refusals that
happen while a verifier runs. It follows the verifier through the helpers as the
verdict does. A refusal needs a template and a body to be refused: where either
is missing, the delegation fails before the bound is looked at.

`Matcher.refusals` leaves open what verifiers decide and how often they are refused
a delegation. A `Verification` is a choice of both.
-/

namespace HandlerRecognition

/-- A count of refusals while the verifier of a template runs at a position of a
body. -/
abbrev Tally := Template → Body → Nat → Nat

/-- The refusals while a template is matched at the positions of a list. The
verifier runs only where the shape fits. -/
def Tally.total (refusals : Tally) (t : Template) (body : Body)
    (positions : List Nat) : Nat :=
  (positions.filter (t.fitsAt body)).foldr (fun p n => refusals t body p + n) 0

/-- The positions that are looked at until one is accepted. -/
def positionsUntil (accepts : Nat → Bool) : List Nat → List Nat
  | [] => []
  | p :: ps => p :: if accepts p then [] else positionsUntil accepts ps

/-- The positions of a helper body at which a demand has the template
matched. -/
def Demand.positions : Demand → Body → List Nat
  | .atStart, _ => [0]
  | .once, body => List.range body.length

/-- The refusals while a delegation runs, given the count one level deeper if
the depth allows it. -/
def Delegation.refusalsBy (d : Delegation) (s : Site)
    (deeper? : Option Tally) : Nat :=
  match s.helper? d.offset d.templateName, deeper? with
  | none, _ => 0
  | some _, none => 1
  | some (t, body), some refusals =>
    refusals.total t body (d.demand.positions body)

def Template.refusalsBy (t : Template) (s : Site) (deeper? : Option Tally) :
    Nat :=
  match t.verifier? with
  | some (.delegation d) => d.refusalsBy s deeper?
  | _ => 0

/-- The refusals while a template is located in a body, under a decision on
verifiers. -/
def Matcher.refusals (verifies : Matcher) (refusals : Tally) (t : Template)
    (body : Body) : Nat :=
  refusals.total t body (positionsUntil
    (fun p => t.fitsAt body p && verifies t body p)
    (t.anchor.span body.length).positions)

/-- Whether verifiers hold, and how often they are refused a delegation. -/
structure Verification where
  holds : Environment → Matcher
  refusals : Environment → Tally

/-- The refusals while a template is located in a body, whatever verifiers do. -/
def Verification.attemptRefusals (v : Verification) (env : Environment) :
    Template → Body → Nat :=
  (v.holds env).refusals (v.refusals env)

namespace Environment

def refusalsBy (env : Environment) (deeper? : Option Tally) : Tally :=
  fun t body start => t.refusalsBy ⟨env, body, start⟩ deeper?

/-- The refusals if delegations are followed for at most a number of levels. -/
def refusalsWithin : Nat → Environment → Tally
  | 0, env => env.refusalsBy none
  | levels + 1, env =>
    env.refusalsBy (env.descend?.map (refusalsWithin levels))

/-- The refusals while the verifier of a template runs at a position. -/
def refusals (env : Environment) : Tally :=
  refusalsWithin env.budget env

/-- What verifiers do. -/
def verification : Verification :=
  ⟨verifies, refusals⟩

def attemptRefusals (env : Environment) : Template → Body → Nat :=
  verification.attemptRefusals env

theorem attemptRefusals_apply (env : Environment) (t : Template) (body : Body) :
    env.attemptRefusals t body =
      Matcher.refusals env.verifies env.refusals t body := rfl

end Environment

end HandlerRecognition
