import HandlerRecognition.Resolution.Table

/-!
# Batches

Handlers are submitted one after the other, and several may come under one
identifier. A `Batch` keeps the first of them, and whether a later one has a
different body. Only the first is compared with: the later ones are not kept.
Bodies are compared by `Body.same?`, under which a body need not equal itself.
-/

namespace HandlerRecognition

/-- What was submitted under one identifier. -/
structure Submission where
  /-- The handler that came first. -/
  handler : Handler
  /-- Whether the body of a later one differs from that of the first. -/
  isConflicting : Bool

namespace Submission

/-- The submission after one more handler under the same identifier. -/
def join (s : Submission) (h : Handler) : Submission :=
  if Body.same? s.handler.body? h.body? then s
  else { s with isConflicting := true }

/-- The submission that a handler leads to, given what came before it under the
same identifier. -/
def receive (h : Handler) : Option Submission → Submission
  | none => ⟨h, false⟩
  | some s => s.join h

@[simp] theorem receive_none (h : Handler) : receive h none = ⟨h, false⟩ := rfl

@[simp] theorem receive_some (h : Handler) (s : Submission) :
    receive h (some s) =
      ⟨s.handler,
        s.isConflicting || !Body.same? s.handler.body? h.body?⟩ := by
  simp only [receive, join]
  split
  case isTrue hsame => simp [hsame]
  case isFalse hsame => simp [hsame]

end Submission

/-- What was submitted, by ascending identifier. -/
abbrev Batch := Table Submission

namespace Batch

def add (b : Batch) (h : Handler) : Batch :=
  b.revise h.id (Submission.receive h)

def ofHandlers (handlers : List Handler) : Batch :=
  handlers.foldl add Table.empty

/-- The identifiers under which different bodies were submitted. -/
def conflicts (b : Batch) : List HandlerId :=
  (b.entries.filter fun e => e.2.isConflicting).map Prod.fst

/-- The handlers that are to be resolved. -/
def accepted (b : Batch) : List Handler :=
  (b.entries.filter fun e => !e.2.isConflicting).map fun e => e.2.handler

end Batch

end HandlerRecognition
