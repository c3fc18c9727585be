import HandlerRecognition.Instruction.Body
import HandlerRecognition.Template.Slot
import HandlerRecognition.Template.Verifier

/-!
# Templates

A template describes the shape of one kind of handler as a list of slots. Its
extent says whether the slots must cover the rest of the body or only begin it,
its anchor says where in a body it is tried, and its verifier, if it has one, is
a further condition on the operands.

A template has the opcode that its handlers stand for as its target. A template
without a target is internal: no handler is ever bound by it, and it serves only
to be matched in helper methods on behalf of a verifier.
-/

namespace HandlerRecognition

/-- How much of a body a template must cover. -/
inductive Extent where
  /-- All that is left of the body. -/
  | entire
  /-- As many instructions as there are slots; more may follow. -/
  | window
  deriving DecidableEq

/-- Where in a body a template is tried. -/
inductive Anchor where
  | start
  | fixed (index : UInt64)
  /-- At every index, from the first one on. -/
  | scan
  deriving DecidableEq

/-- The shape of one kind of handler. -/
structure Template where
  /-- The name, which tells templates of a catalog apart. -/
  name : String
  /-- The opcode that the handlers of this shape stand for. -/
  target? : Option Opcode
  extent : Extent
  slots : List Slot
  anchor : Anchor
  verifier? : Option Verifier
  deriving DecidableEq

namespace Template

/-- The template without a verifier that is tried at the first instruction. -/
def new (name : String) (target? : Option Opcode) (extent : Extent)
    (slots : List Slot) : Template :=
  ⟨name, target?, extent, slots, .start, none⟩

/-- The template that has the given opcodes as the whole body. -/
def entire (name : String) (target? : Option Opcode) (opcodes : List Opcode) :
    Template :=
  new name target? .entire (opcodes.map .exact)

/-- The template that has the given opcodes as a part of the body. -/
def window (name : String) (target? : Option Opcode) (opcodes : List Opcode) :
    Template :=
  new name target? .window (opcodes.map .exact)

/-- The template with the exact slots of the given families widened. -/
def interchange (t : Template) (families : Interchange) : Template :=
  { t with slots := t.slots.map families.widen }

def anchored (t : Template) (anchor : Anchor) : Template :=
  { t with anchor := anchor }

def verifiedBy (t : Template) (v : Verifier) : Template :=
  { t with verifier? := some v }

def isInternal (t : Template) : Bool :=
  t.target?.isNone

def length (t : Template) : Nat :=
  t.slots.length

def isEmpty (t : Template) : Bool :=
  t.slots.isEmpty

def isVerified (t : Template) : Bool :=
  t.verifier?.isSome

end Template

end HandlerRecognition
