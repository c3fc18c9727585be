import HandlerRecognition.Matching.Verdict

/-!
# Searching a body for a template

`Environment.positions` lists all positions at which a template is accepted.
`Environment.locate?` is the first of the positions that the anchor allows.
`Matcher.attempt` walks along these positions and says the same with more
detail: where the template is not accepted, it tells a shape that fits nowhere
from one that a verifier refused. What verifiers decide is left open in it.
-/

namespace HandlerRecognition

/-- What came of trying a template on a body. -/
inductive Attempt where
  /-- The shape fits at no position that the anchor allows. -/
  | absent
  /-- The shape fits, and the verifier refused each time. -/
  | refused
  /-- The first position at which the template is accepted. -/
  | matched (position : Nat)
  deriving DecidableEq

namespace Matcher

/-- What comes of trying a template at positions, one after the other, under a
decision on verifiers. The flag tells whether the shape has fitted before. -/
def attemptAt (verifies : Matcher) (t : Template) (body : Body)
    (isShaped : Bool) : List Nat → Attempt
  | [] => if isShaped then .refused else .absent
  | p :: ps =>
    if t.fitsAt body p then
      if verifies t body p then .matched p
      else attemptAt verifies t body true ps
    else attemptAt verifies t body isShaped ps

def attempt (verifies : Matcher) (t : Template) (body : Body) : Attempt :=
  attemptAt verifies t body false (t.anchor.span body.length).positions

/-- The first position that the anchor allows at which the shape of a template
fits and its verifier holds, under a decision on verifiers. -/
def locate? (verifies : Matcher) (t : Template) (body : Body) : Option Nat :=
  (t.anchor.span body.length).positions.find? fun p =>
    t.fitsAt body p && verifies t body p

end Matcher

namespace Environment

def positions (env : Environment) (t : Template) (body : Body) : List Nat :=
  (List.range body.length).filter (env.accepts t body)

def count (env : Environment) (t : Template) (body : Body) : Nat :=
  (env.positions t body).length

/-- The first position that the anchor allows at which a template is
accepted. -/
def locate? (env : Environment) (t : Template) (body : Body) : Option Nat :=
  (t.anchor.span body.length).positions.find? (env.accepts t body)

end Environment

end HandlerRecognition
