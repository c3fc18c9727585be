import HandlerRecognition.Resolution.Outcome

/-!
# Log events

An `Event` is something worth a message, kept as what happened and not as text.
`Event.level` says how much it matters and `Event.text` is the message.
-/

namespace HandlerRecognition

inductive Level where
  | warn
  | info
  | debug
  | trace
  deriving DecidableEq

def Level.text : Level → String
  | .warn => "WARN"
  | .info => "INFO"
  | .debug => "DEBUG"
  | .trace => "TRACE"

/-- Something worth a message. -/
inductive Event where
  | catalogBuilt (templates targets : Nat)
  /-- Different bodies were submitted under one identifier. -/
  | conflict (id : HandlerId)
  /-- A batch is about to be resolved. -/
  | batch (handlers templates : Nat) (isParallel : Bool)
  | noBody (id : HandlerId)
  | emptyBody (id : HandlerId)
  /-- A delegation was refused at the bound on the depth. -/
  | depthLimit (maxDepth : Nat)
  | matched (id : HandlerId) (template : String) (position : Nat)
  /-- A verifier refused a template whose shape fits. -/
  | rejected (id : HandlerId) (template : String)
  | ambiguous (id : HandlerId) (templates : List String)
  | bound (id : HandlerId) (opcode : Opcode) (template : String)
  | finished (summary : String)
  deriving DecidableEq

namespace Event

def level : Event → Level
  | .conflict _ | .ambiguous _ _ => .warn
  | .finished _ => .info
  | .catalogBuilt _ _ | .batch _ _ _ | .noBody _ | .emptyBody _
  | .bound _ _ _ => .debug
  | .depthLimit _ | .matched _ _ _ | .rejected _ _ => .trace

def workersText (isParallel : Bool) : String :=
  if isParallel then "parallel" else "sequential"

def text : Event → String
  | .catalogBuilt templates targets =>
    "pattern catalog: " ++ toString templates ++ " templates covering " ++
      toString targets ++ " opcodes"
  | .conflict id =>
    id.text ++ " submitted more than once with different bodies"
  | .batch handlers templates isParallel =>
    "resolving " ++ toString handlers ++ " handlers against " ++
      toString templates ++ " templates (" ++ workersText isParallel ++ ")"
  | .noBody id => id.text ++ ": no body"
  | .emptyBody id => id.text ++ ": empty body"
  | .depthLimit maxDepth =>
    "delegation depth limit " ++ toString maxDepth ++ " reached"
  | .matched id template position =>
    id.text ++ ": " ++ template ++ " matched at " ++ toString position
  | .rejected id template =>
    id.text ++ ": " ++ template ++ " rejected by verifier"
  | .ambiguous id templates =>
    id.text ++ " is ambiguous between " ++ Text.commaSeparated templates
  | .bound id opcode template =>
    id.text ++ " bound to " ++ opcode.mnemonic ++ " via " ++ template
  | .finished summary => "handler resolution: " ++ summary

end Event

end HandlerRecognition
