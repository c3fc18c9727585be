import HandlerRecognition.Catalog.Basic
import HandlerRecognition.Metadata.Store

/-!
# Environments

A match takes place in an `Environment`: the catalog in which verifiers look up
templates, the store in which they look up metadata, and how deep in helper
methods the match is. `Environment.descend?` goes one helper deeper. It fails
once the bound on the depth is reached, also where the bound was lowered to less
than the depth.
-/

namespace HandlerRecognition

/-- What a match refers to besides the template and the body. -/
structure Environment where
  catalog : Catalog
  store : Store
  /-- How many helper methods deep the match is. -/
  depth : Nat
  /-- How many helper methods deep a match may be. -/
  maxDepth : Nat

namespace Environment

def defaultMaxDepth : Nat := 4

/-- The environment of a handler. -/
def top (catalog : Catalog) (store : Store) : Environment :=
  ⟨catalog, store, 0, defaultMaxDepth⟩

def withMaxDepth (env : Environment) (maxDepth : Nat) : Environment :=
  { env with maxDepth := maxDepth }

/-- How many helper methods deeper a match may still go. -/
def budget (env : Environment) : Nat :=
  env.maxDepth - env.depth

/-- The environment one helper method deeper. -/
def descend? (env : Environment) : Option Environment :=
  if env.depth < env.maxDepth then some { env with depth := env.depth + 1 }
  else none

/-- The environments that up to `n` descents lead to, in order. The list is
shorter than `n` if a descent fails. -/
def descents (env : Environment) : Nat → List Environment
  | 0 => []
  | n + 1 =>
    match env.descend? with
    | some deeper => deeper :: deeper.descents n
    | none => []

theorem descend?_eq_none_iff {env : Environment} :
    env.descend? = none ↔ env.maxDepth ≤ env.depth := by
  simp [descend?]

theorem descend?_eq_some_iff {env deeper : Environment} :
    env.descend? = some deeper ↔
      env.depth < env.maxDepth ∧
        deeper = { env with depth := env.depth + 1 } := by
  simp [descend?, eq_comm]

theorem budget_of_descend? {env deeper : Environment}
    (h : env.descend? = some deeper) : env.budget = deeper.budget + 1 := by
  obtain ⟨hlt, rfl⟩ := descend?_eq_some_iff.mp h
  simp only [budget]
  omega

end Environment

end HandlerRecognition
