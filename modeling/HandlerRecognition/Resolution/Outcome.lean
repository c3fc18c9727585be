import HandlerRecognition.Resolution.Table
import HandlerRecognition.Text.List

/-!
# Outcomes

A handler is bound to an opcode, or it is ambiguous between several, or it is
unresolved for a reason. A `Resolution` records the outcomes of a batch in three
tables, one for each kind of outcome. Recording an outcome touches one table
only, so an identifier is in at most one of them as long as no outcome is
recorded twice under it.
-/

namespace HandlerRecognition

/-- A handler with the opcode it stands for. -/
structure Binding where
  handler : HandlerId
  opcode : Opcode
  template : String
  position : Nat
  /-- Whether a verifier had a say in it. -/
  isVerified : Bool
  deriving DecidableEq

/-- Why a handler was not bound. -/
inductive Reason where
  | noMatch
  /-- Shapes fit, and their verifiers refused. -/
  | rejected (templates : List String)
  | missingBody
  | emptyBody
  /-- Different bodies were submitted under one identifier. -/
  | duplicateId
  deriving DecidableEq

def Reason.text : Reason → String
  | .noMatch => "no template matched"
  | .rejected templates =>
    "rejected by verifier of " ++ Text.commaSeparated templates
  | .missingBody => "no method body"
  | .emptyBody => "empty method body"
  | .duplicateId => "conflicting handlers share this id"

/-- What became of a handler. -/
inductive Outcome where
  | bound (binding : Binding)
  | unresolved (reason : Reason)
  /-- Templates of several opcodes are accepted. -/
  | ambiguous (opcodes : List Opcode)
  deriving DecidableEq

namespace Outcome

def binding? : Outcome → Option Binding
  | .bound b => some b
  | _ => none

def reason? : Outcome → Option Reason
  | .unresolved r => some r
  | _ => none

def opcodes? : Outcome → Option (List Opcode)
  | .ambiguous opcodes => some opcodes
  | _ => none

end Outcome

/-- The outcomes of a batch, by kind. -/
structure Resolution where
  boundTable : Table Binding
  unresolvedTable : Table Reason
  ambiguousTable : Table (List Opcode)
  deriving DecidableEq

namespace Resolution

def empty : Resolution := ⟨.empty, .empty, .empty⟩

/-- The resolution with one more outcome, in the table of its kind. -/
def record (r : Resolution) (id : HandlerId) : Outcome → Resolution
  | .bound b => { r with boundTable := r.boundTable.insert id b }
  | .unresolved reason =>
    { r with unresolvedTable := r.unresolvedTable.insert id reason }
  | .ambiguous opcodes =>
    { r with ambiguousTable := r.ambiguousTable.insert id opcodes }

/-- The resolution with outcomes recorded one after the other. -/
def recordAll (r : Resolution) (outcomes : List (HandlerId × Outcome)) :
    Resolution :=
  outcomes.foldl (fun r e => r.record e.1 e.2) r

def bindings (r : Resolution) : List (HandlerId × Binding) :=
  r.boundTable.entries

def unresolved (r : Resolution) : List (HandlerId × Reason) :=
  r.unresolvedTable.entries

def ambiguous (r : Resolution) : List (HandlerId × List Opcode) :=
  r.ambiguousTable.entries

def binding? (r : Resolution) (id : HandlerId) : Option Binding :=
  r.boundTable.find? id

def isBound (r : Resolution) (id : HandlerId) : Bool :=
  (r.binding? id).isSome

def outcome? (r : Resolution) (id : HandlerId) : Option Outcome :=
  match r.boundTable.find? id, r.unresolvedTable.find? id with
  | some b, _ => some (.bound b)
  | none, some reason => some (.unresolved reason)
  | none, none => (r.ambiguousTable.find? id).map .ambiguous

/-- The number of handlers. -/
def size (r : Resolution) : Nat :=
  r.boundTable.size + r.unresolvedTable.size + r.ambiguousTable.size

/-- The sizes of the three tables in one line. -/
def summary (r : Resolution) : String :=
  toString r.bindings.length ++ " bound, " ++
    toString r.unresolved.length ++ " unresolved, " ++
    toString r.ambiguous.length ++ " ambiguous"

def bindingLine (entry : HandlerId × Binding) : String :=
  "  " ++ entry.1.text ++ ": " ++ entry.2.opcode.mnemonic ++ " (" ++
    entry.2.template ++ " @" ++ toString entry.2.position ++ ")"

def unresolvedLine (entry : HandlerId × Reason) : String :=
  "  " ++ entry.1.text ++ ": unresolved, " ++ entry.2.text

def ambiguousLine (entry : HandlerId × List Opcode) : String :=
  "  " ++ entry.1.text ++ ": ambiguous between " ++
    Text.commaSeparated (entry.2.map Opcode.mnemonic)

/-- The summary, and below it a line for each handler, table by table. -/
def text (r : Resolution) : String :=
  String.join <| List.map (· ++ "\n") <|
    r.summary :: r.bindings.map bindingLine ++
      r.unresolved.map unresolvedLine ++ r.ambiguous.map ambiguousLine

end Resolution

end HandlerRecognition
