/-!
# Binary floating-point words

A `Binary.Format` says how many bits of a word hold the exponent and how many
the fraction; one more bit is the sign. Words are natural numbers, so that one
set of definitions serves both sizes.

`Format.sameNumber` is equality of the numbers, and not of the words: a word
that is not a number equals nothing, itself included, and the two zeros are
equal. It is symmetric and transitive, and it is reflexive on numbers only.
-/

namespace HandlerRecognition

namespace Binary

/-- A binary interchange format. -/
structure Format where
  exponentWidth : Nat
  fractionWidth : Nat

def single : Format := ⟨8, 23⟩

def double : Format := ⟨11, 52⟩

namespace Format

variable (f : Format) (w : Nat)

/-- The word without its sign bit. -/
def magnitude : Nat :=
  w % Nat.pow 2 (f.exponentWidth + f.fractionWidth)

def isNegative : Bool :=
  w / Nat.pow 2 (f.exponentWidth + f.fractionWidth) % 2 == 1

def exponentField : Nat :=
  f.magnitude w / Nat.pow 2 f.fractionWidth

def fraction : Nat :=
  w % Nat.pow 2 f.fractionWidth

/-- The exponent field with all bits set, which marks infinities and words that
are not numbers. -/
def topExponent : Nat :=
  Nat.pow 2 f.exponentWidth - 1

def isNotANumber : Bool :=
  f.exponentField w == f.topExponent && f.fraction w != 0

def isInfinite : Bool :=
  f.exponentField w == f.topExponent && f.fraction w == 0

def isZero : Bool :=
  f.magnitude w == 0

/-- The significand of a finite word as a whole number. -/
def significand : Nat :=
  if f.exponentField w = 0 then f.fraction w
  else Nat.pow 2 f.fractionWidth + f.fraction w

/-- The power of two that the significand of a finite word is multiplied by. -/
def scale : Int :=
  (max (f.exponentField w) 1 : Nat) -
    (Nat.pow 2 (f.exponentWidth - 1) - 1 : Nat) - (f.fractionWidth : Nat)

/-- Whether the number below a finite word is nearer to it than the one above,
as it is where the significand starts anew. -/
def isLowerEnd : Bool :=
  f.fraction w == 0 && f.exponentField w != 0

/-- Equality of the numbers that two words stand for. -/
def sameNumber (v w : Nat) : Bool :=
  !f.isNotANumber v && !f.isNotANumber w &&
    (v == w || f.isZero v && f.isZero w)

theorem sameNumber_comm (v w : Nat) : f.sameNumber v w = f.sameNumber w v := by
  simp only [sameNumber, Bool.and_comm (!f.isNotANumber v),
    Bool.and_comm (f.isZero v), BEq.comm (a := v)]

end Format

end Binary

end HandlerRecognition
