import HandlerRecognition.Text.Hex
import HandlerRecognition.Text.Printable

/-!
# Quoted text

`Text.quote` writes a text between double quotes so that every character can be
seen. A quote and a backslash get a backslash in front, the usual control
characters have an escape of one letter, and every other character that is not
shown as itself is written by its code point.
-/

namespace HandlerRecognition

namespace Text

/-- A code point in braces, without zeros in front. -/
def codePointEscape (c : Char) : List Char :=
  ['\\', 'u', '\x7b'] ++ hexDigits 1 c.toNat ++ ['\x7d']

/-- A character as it stands between quotes. -/
def escape (c : Char) : List Char :=
  match c with
  | '"' => ['\\', '"']
  | '\\' => ['\\', '\\']
  | '\n' => ['\\', 'n']
  | '\r' => ['\\', 'r']
  | '\t' => ['\\', 't']
  | '\x00' => ['\\', '0']
  | c => if isPrintable c then [c] else codePointEscape c

/-- A text between double quotes. -/
def quote (s : String) : String :=
  String.ofList ('"' :: s.toList.flatMap escape ++ ['"'])

end Text

end HandlerRecognition
