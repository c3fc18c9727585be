import HandlerRecognition.Decimal.Binary

/-!
# The shortest decimal of a binary number

Every decimal near enough to a finite binary number reads back as that number.
`Decimal.shortest` picks the one with the fewest digits, and among those the
nearest; of two equally near ones it takes the larger.

All numbers here are positive and exact. A `Neighbourhood` holds a number and
the two ends of the interval that reads back as it, all three as multiples of
one power of two. A grid is the set of multiples of one power of ten. The search
goes from coarse grids to finer ones. On each it looks at the multiples just
below and just above the number, since if any multiple is in the interval then
one of these two is.
-/

namespace HandlerRecognition

namespace Decimal

/-- The number `digits * 10 ^ exponent`. -/
structure Scaled where
  digits : Nat
  exponent : Int
  deriving DecidableEq

/-- A number with the interval that reads back as it. The number is
`center * 2 ^ scale`, and the ends are `low * 2 ^ scale` and
`high * 2 ^ scale`. -/
structure Neighbourhood where
  center : Nat
  low : Nat
  high : Nat
  scale : Int
  /-- Whether the ends read back as the number. -/
  closed : Bool

namespace Neighbourhood

/-- The numerator of `k * 2 ^ scale / 10 ^ e`. -/
def numerator (n : Neighbourhood) (e : Int) (k : Nat) : Nat :=
  k * Nat.pow 2 n.scale.toNat * Nat.pow 10 (-e).toNat

def denominator (n : Neighbourhood) (e : Int) : Nat :=
  Nat.pow 2 (-n.scale).toNat * Nat.pow 10 e.toNat

/-- Whether `d * 10 ^ e` reads back as the number. -/
def holds (n : Neighbourhood) (e : Int) (d : Nat) : Bool :=
  let low := n.numerator e n.low
  let high := n.numerator e n.high
  let value := d * n.denominator e
  if n.closed then low ≤ value && value ≤ high
  else low < value && value < high

/-- The multiple of `10 ^ e` that is nearest to the number, of those that read
back as it. -/
def onGrid? (n : Neighbourhood) (e : Int) : Option Nat :=
  let numerator := n.numerator e n.center
  let denominator := n.denominator e
  let below := numerator / denominator
  match n.holds e below, n.holds e (below + 1) with
  | true, true =>
    if 2 * (numerator % denominator) < denominator then some below
    else some (below + 1)
  | true, false => some below
  | false, true => some (below + 1)
  | false, false => none

/-- The first hit on the grids of `10 ^ e` and the `steps` grids below it. -/
def search (n : Neighbourhood) : Nat → Int → Option Scaled
  | 0, e => (n.onGrid? e).map fun d => ⟨d, e⟩
  | steps + 1, e =>
    match n.onGrid? e with
    | some d => some ⟨d, e⟩
    | none => search n steps (e - 1)

/-- An exponent of ten with the number below its power. -/
def ceilingExponent (n : Neighbourhood) : Nat :=
  (Nat.toDigits 10 (n.numerator 0 n.center / n.denominator 0)).length

/-- The first hit on any grid. The number itself lies on the grid of
`10 ^ scale` if the scale is negative and on that of `1` otherwise, so the
search ends there at the latest. -/
def shortest (n : Neighbourhood) : Scaled :=
  (n.search (n.ceilingExponent + (-n.scale).toNat) n.ceilingExponent).getD
    ⟨0, 0⟩

end Neighbourhood

/-- The interval that reads back as a finite word other than a zero. It reaches
half-way to the neighbours of the number, and its ends belong to it if the
significand is even. All is counted in quarters of the last binary place. -/
def neighbourhood (f : Binary.Format) (w : Nat) : Neighbourhood where
  center := 4 * f.significand w
  low := 4 * f.significand w - (if f.isLowerEnd w then 1 else 2)
  high := 4 * f.significand w + 2
  scale := f.scale w - 2
  closed := f.significand w % 2 == 0

def shortest (f : Binary.Format) (w : Nat) : Scaled :=
  (neighbourhood f w).shortest

end Decimal

end HandlerRecognition
