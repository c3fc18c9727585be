import HandlerRecognition.Instruction.Basic

/-!
# Method bodies

A body is the list of the instructions of a method, in the order of their
offsets. Positions in a body are natural numbers, and a position past the end
holds nothing.
-/

namespace HandlerRecognition

/-- The decoded instructions of a method. -/
abbrev Body := List Instruction

namespace Body

def opcodes (body : Body) : List Opcode :=
  body.map Instruction.opcode

/-- Whether two bodies are equal, with constants compared as numbers. -/
def same : Body → Body → Bool
  | [], [] => true
  | i :: is, j :: js => i.same j && same is js
  | _, _ => false

/-- Whether two bodies that may be missing are equal, with constants compared as
numbers. A missing body equals a missing one only. -/
def same? : Option Body → Option Body → Bool
  | none, none => true
  | some a, some b => a.same b
  | _, _ => false

/-- A position past the end of a body. -/
structure OutOfRange where
  length : Nat
  index : Nat
  deriving DecidableEq

def OutOfRange.message (fault : OutOfRange) : String :=
  "index out of bounds: the len is " ++ toString fault.length ++
    " but the index is " ++ toString fault.index

/-- The instruction at a position that should be inside the body. -/
def fetch (body : Body) (index : Nat) : Except OutOfRange Instruction :=
  match body[index]? with
  | some i => .ok i
  | none => .error ⟨body.length, index⟩

theorem fetch_eq_ok_iff {body : Body} {index : Nat} {i : Instruction} :
    body.fetch index = .ok i ↔ body[index]? = some i := by
  unfold fetch
  cases body[index]? <;> simp

/-- A fetch fails exactly when the position is past the end. -/
theorem fetch_eq_error_iff {body : Body} {index : Nat} :
    body.fetch index = .error ⟨body.length, index⟩ ↔ body.length ≤ index := by
  unfold fetch
  cases h : body[index]? with
  | none => simpa using h
  | some i =>
      obtain ⟨hlt, _⟩ := List.getElem?_eq_some_iff.mp h
      simp
      omega

end Body

end HandlerRecognition
