import HandlerRecognition.Catalog.Builtin
import HandlerRecognition.Matching.Inspection
import HandlerRecognition.Matching.Shape

/-!
# Verdicts

A template is accepted at a position of a body if its shape fits there and its
verifier holds there. A verifier may delegate: it then has another template
matched in the body of a helper method, one level deeper. Helpers may call each
other in a circle, so nothing but the bound on the depth ends this, and a
delegation at the bound fails.

`Environment.verdictWithin` follows delegations for a given number of levels, and
`Environment.accepts` takes the number of levels that the environment allows.
`Environment.accepts_eq` states it without the number.
-/

namespace HandlerRecognition

/-- A decision on whether a template is accepted at a position of a body. -/
abbrev Matcher := Template → Body → Nat → Bool

namespace Site

/-- Whether the named template is accepted at the first instruction of the
method at an offset. There is no matcher if the bound on the depth is
reached. -/
def delegatesToBy (s : Site) (deeper? : Option Matcher) (offset : Nat)
    (name : String) : Bool :=
  match s.helper? offset name, deeper? with
  | some (t, body), some accepts => accepts t body 0
  | _, _ => false

/-- The number of positions at which the named template is accepted in the body
of the method at an offset. -/
def occurrencesBy (s : Site) (deeper? : Option Matcher) (offset : Nat)
    (name : String) : Option Nat :=
  match s.helper? offset name, deeper? with
  | some (t, body), some accepts =>
    some ((List.range body.length).countP (accepts t body))
  | _, _ => none

end Site

/-- What a delegation demands of the helper. -/
inductive Demand where
  /-- The template is accepted at the first instruction. -/
  | atStart
  /-- The template is accepted at exactly one position. -/
  | once
  deriving DecidableEq

namespace Delegation

def offset : Delegation → Nat
  | .endsInterpreter | .readsTopOnce | .takesTopOnce => 1

def templateName : Delegation → String
  | .endsInterpreter => Builtin.enableReturnName
  | .readsTopOnce => Builtin.peekStackName
  | .takesTopOnce => Builtin.popStackName

def demand : Delegation → Demand
  | .endsInterpreter => .atStart
  | .readsTopOnce | .takesTopOnce => .once

def holdsBy (d : Delegation) (s : Site) (deeper? : Option Matcher) : Bool :=
  match d.demand with
  | .atStart => s.delegatesToBy deeper? d.offset d.templateName
  | .once => s.occurrencesBy deeper? d.offset d.templateName == some 1

end Delegation

/-- Whether a verifier holds of a site. -/
def Verifier.holdsBy (v : Verifier) (s : Site) (deeper? : Option Matcher) :
    Bool :=
  match v with
  | .constant answer => answer
  | .inspection i => i.holds s
  | .delegation d => d.holdsBy s deeper?

/-- Whether the verifier of a template holds of a site. A template without a
verifier demands nothing. -/
def Template.passesBy (t : Template) (s : Site)
    (deeper? : Option Matcher) : Bool :=
  t.verifier?.all fun v => v.holdsBy s deeper?

namespace Environment

/-- The verdict in an environment, given that of the environment one level
deeper if there is one. -/
def verdictBy (env : Environment) (deeper? : Option Matcher) : Matcher :=
  fun t body start =>
    t.fitsAt body start && t.passesBy ⟨env, body, start⟩ deeper?

/-- The verdict if delegations are followed for at most a number of levels. -/
def verdictWithin : Nat → Environment → Matcher
  | 0, env => env.verdictBy none
  | levels + 1, env => env.verdictBy (env.descend?.map (verdictWithin levels))

/-- Whether a template is accepted at a position of a body. -/
def accepts (env : Environment) : Matcher :=
  verdictWithin env.budget env

/-- The verdict one level deeper, if the depth allows it. -/
def deeper? (env : Environment) : Option Matcher :=
  env.descend?.map accepts

/-- Whether the verifier of a template holds at a position of a body, whatever
the shape. -/
def verifies (env : Environment) (t : Template) (body : Body) (start : Nat) :
    Bool :=
  t.passesBy ⟨env, body, start⟩ env.deeper?

/-- A template is accepted where its shape fits and its verifier holds. -/
theorem accepts_eq (env : Environment) (t : Template) (body : Body)
    (start : Nat) :
    env.accepts t body start =
      (t.fitsAt body start && env.verifies t body start) := by
  have h : env.accepts = env.verdictBy env.deeper? := by
    unfold accepts deeper?
    cases hd : env.descend? with
    | none =>
        have hb : env.budget = 0 := by
          have := descend?_eq_none_iff.mp hd
          simp only [budget]
          omega
        rw [hb]
        rfl
    | some deeper =>
        rw [budget_of_descend? hd]
        simp [verdictWithin, hd]
        rfl
  rw [h]
  rfl

end Environment

namespace Site

def delegatesTo (s : Site) (offset : Nat) (name : String) : Bool :=
  s.delegatesToBy s.env.deeper? offset name

def occurrencesIn (s : Site) (offset : Nat) (name : String) : Option Nat :=
  s.occurrencesBy s.env.deeper? offset name

end Site

end HandlerRecognition
