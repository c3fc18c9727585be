import HandlerRecognition.Decimal.Shortest

/-!
# Layout of decimal numbers

A `Decimal.Layout` says for which sizes a number is written in place, digit by
digit around a decimal point, and for which with an exponent. `Layout.word`
writes the shortest decimal of a floating-point word.
-/

namespace HandlerRecognition

namespace Decimal

/-- The sizes of numbers that are written in place. A number is written in place
if the exponent of its first digit is at least `lowest` and below `limit`. -/
structure Layout where
  lowest : Int
  limit : Int

/-- Digits around a decimal point that stands behind the first `point` of them.
At least one digit is written on either side. -/
def inPlace (digits : List Char) (point : Int) : List Char :=
  if point ≤ 0 then
    ['0', '.'] ++ List.replicate (-point).toNat '0' ++ digits
  else if digits.length ≤ point.toNat then
    digits ++ List.replicate (point.toNat - digits.length) '0' ++ ['.', '0']
  else
    digits.take point.toNat ++ '.' :: digits.drop point.toNat

/-- Digits with the point behind the first of them, and the exponent that goes
with it. -/
def withExponent (digits : List Char) (exponent : Int) : List Char :=
  let fraction :=
    match digits with
    | first :: next :: rest => first :: '.' :: next :: rest
    | short => short
  fraction ++ 'e' :: (toString exponent).toList

namespace Layout

def scaled (l : Layout) (d : Scaled) : List Char :=
  let digits := Nat.toDigits 10 d.digits
  let first := digits.length + d.exponent - 1
  if l.lowest ≤ first && first < l.limit then inPlace digits (first + 1)
  else withExponent digits first

def word (l : Layout) (f : Binary.Format) (w : Nat) : String :=
  let sign := if f.isNegative w then "-" else ""
  if f.isNotANumber w then "NaN"
  else if f.isInfinite w then sign ++ "inf"
  else if f.isZero w then sign ++ "0.0"
  else sign ++ String.ofList (l.scaled (shortest f w))

end Layout

end Decimal

end HandlerRecognition
