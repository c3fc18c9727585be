/-!
# Numbers in base sixteen

`Text.hex` writes a number with at least a given count of digits, zeros in
front. `Text.hexUpper` uses capital digits.
-/

namespace HandlerRecognition

namespace Text

/-- The digits of a number in base sixteen, with zeros in front up to `width`
digits. A number that needs more digits is written in full. -/
def hexDigits (width n : Nat) : List Char :=
  (Nat.toDigits 16 n).leftpad width '0'

/-- A number in base sixteen with small letters. -/
def hex (width n : Nat) : String :=
  String.ofList (hexDigits width n)

/-- A number in base sixteen with capital letters. -/
def hexUpper (width n : Nat) : String :=
  String.ofList ((hexDigits width n).map Char.toUpper)

end Text

end HandlerRecognition
