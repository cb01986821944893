/-!
# Numbers in double precision

A double is a significand of at most 53 bits times a power of two, an infinity
or no number.  Each finite value has one form: the exponent is the least one,
or the significand has all its bits.  Decimals are read to the nearest double,
and of two that are equally near to the one whose significand is even.
-/

namespace WinrtLint

/-- A number in double precision. -/
inductive Double where
  /-- The significand times two to the power of the exponent, below zero or not. -/
  | finite (negative : Bool) (significand : Nat) (exponent : Int)
  | infinite (negative : Bool)
  | notANumber
  deriving DecidableEq, Repr

namespace Double

/-- The least significand that has all its bits. -/
def fullSignificand : Nat :=
  0x10000000000000

/-- The least exponent. -/
def leastExponent : Int :=
  -1074

/-- The greatest exponent. -/
def greatestExponent : Int :=
  971

/-- Zero, below zero or not. -/
def zero (negative : Bool) : Double :=
  .finite negative 0 leastExponent

/-- A quotient of numbers divided by two to the power of an exponent, as a quotient again. -/
def scaled (exponent : Int) (numerator denominator : Nat) : Nat × Nat :=
  if exponent < 0 then (numerator <<< (-exponent).toNat, denominator)
  else (numerator, denominator <<< exponent.toNat)

/-- A quotient rounded to the nearest number; a half goes to the even neighbour. -/
def roundToEven (numerator denominator : Nat) : Nat :=
  let whole := numerator / denominator
  let twice := 2 * (numerator % denominator)
  if denominator < twice || (twice = denominator && whole % 2 = 1) then whole + 1 else whole

/-- The exponent that leaves a quotient all the bits of a significand. -/
def exponentFor (numerator denominator : Nat) : Int :=
  let guess : Int := (numerator.log2 : Int) - denominator.log2 - 52
  let (above, below) := scaled guess numerator denominator
  let fitting := if above / below < fullSignificand then guess - 1 else guess
  max fitting leastExponent

/-- The double nearest to a quotient of numbers that are not zero. -/
def ofQuotient (negative : Bool) (numerator denominator : Nat) : Double :=
  let exponent := exponentFor numerator denominator
  let (above, below) := scaled exponent numerator denominator
  let rounded := roundToEven above below
  let (significand, exponent) :=
    if rounded = 2 * fullSignificand then (fullSignificand, exponent + 1)
    else (rounded, exponent)
  if greatestExponent < exponent then .infinite negative
  else .finite negative significand exponent

/-- The power of ten near a number above zero: its bits, about three of ten. -/
def magnitude (number : Nat) : Nat :=
  number.log2 * 30103 / 100000

/--
The double nearest to some decimal digits times a power of ten.  Far outside
the range of doubles the size of the number alone decides.
-/
def ofDecimal (negative : Bool) (digits : Nat) (exponent : Int) : Double :=
  let size := magnitude digits + exponent
  if digits = 0 || size < -330 then zero negative
  else if 310 < size then .infinite negative
  else if exponent < 0 then ofQuotient negative digits (Nat.pow 10 (-exponent).toNat)
  else ofQuotient negative (digits * Nat.pow 10 exponent.toNat) 1

/-- Whether a double is zero. -/
def isZero : Double → Bool
  | .finite _ significand _ => significand = 0
  | _ => false

/-- A significand with its sign. -/
def signed (negative : Bool) (significand : Nat) : Int :=
  if negative then -(significand : Int) else significand

/-- The integer that a double is, if it is one. -/
def integer? : Double → Option Int
  | .finite negative significand exponent =>
      if 0 ≤ exponent then some (signed negative (significand <<< exponent.toNat))
      else
        let denominator := 1 <<< (-exponent).toNat
        if significand % denominator = 0 then some (signed negative (significand / denominator))
        else none
  | _ => none

end Double

end WinrtLint
