import HandlerRecognition.Template.Basic
import HandlerRecognition.Text.List
import HandlerRecognition.Text.Quoted

/-!
# Templates as text

`Template.text` is the name with the list of slots. `Template.description` gives
all parts by name, with the slots counted and not listed.
-/

namespace HandlerRecognition

def Extent.description : Extent → String
  | .entire => "EntireBody"
  | .window => "PrefixWindow"

def Anchor.description : Anchor → String
  | .start => "Start"
  | .fixed index => "Fixed(" ++ toString index.toNat ++ ")"
  | .scan => "Scan"

namespace Template

/-- The name and the slots. -/
def text (t : Template) : String :=
  t.name ++ " " ++ Text.bracketed (t.slots.map Slot.text)

/-- All parts by name. -/
def description (t : Template) : String :=
  "Template \x7b name: " ++ Text.quote t.name ++
    ", id: " ++ Text.optional (t.target?.map Opcode.label) ++
    ", slots: " ++ toString t.length ++
    ", mode: " ++ t.extent.description ++
    ", anchor: " ++ t.anchor.description ++
    ", verified: " ++ Text.flag t.isVerified ++ " \x7d"

end Template

end HandlerRecognition
