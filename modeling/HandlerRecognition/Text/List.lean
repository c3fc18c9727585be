/-!
# Texts of lists and optional values

`Text.commaSeparated` joins texts, `Text.bracketed` puts square brackets around
them and `Text.optional` marks whether a value is there.
-/

namespace HandlerRecognition

namespace Text

/-- Texts with a comma and a space between each two. -/
def commaSeparated (items : List String) : String :=
  String.intercalate ", " items

/-- Texts in square brackets, a comma and a space between each two. -/
def bracketed (items : List String) : String :=
  "[" ++ commaSeparated items ++ "]"

/-- The text of a value that may be absent. -/
def optional : Option String → String
  | none => "None"
  | some text => "Some(" ++ text ++ ")"

/-- The text of a truth value. -/
def flag (b : Bool) : String :=
  if b then "true" else "false"

end Text

end HandlerRecognition
