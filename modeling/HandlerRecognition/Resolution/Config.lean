import HandlerRecognition.Matching.Environment
import HandlerRecognition.Text.List

/-!
# Configuration

The configuration of a batch says whether handlers are spread over several
workers and how deep verifiers may follow helper methods. The first has no
influence on the outcomes.
-/

namespace HandlerRecognition

structure Config where
  /-- Whether the handlers are spread over several workers. -/
  isParallel : Bool
  /-- How many helper methods deep a verifier may go. -/
  maxDepth : Nat
  deriving DecidableEq

namespace Config

/-- The configuration unless another is given. -/
def standard : Config := ⟨true, Environment.defaultMaxDepth⟩

/-- The standard configuration with one worker only. -/
def sequential : Config := { standard with isParallel := false }

def withParallel (c : Config) (isParallel : Bool) : Config :=
  { c with isParallel := isParallel }

def withMaxDepth (c : Config) (maxDepth : Nat) : Config :=
  { c with maxDepth := maxDepth }

def description (c : Config) : String :=
  "ResolverConfig \x7b parallel: " ++ Text.flag c.isParallel ++
    ", max_delegation_depth: " ++ toString c.maxDepth ++ " \x7d"

end Config

end HandlerRecognition
