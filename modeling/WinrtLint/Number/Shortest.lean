import WinrtLint.Number.Double

/-!
# Shortest decimals

A double is written with the fewest digits that read back as the same double,
and of those that are as few with the ones nearest to it.  Numbers from a
ten-thousandth up to ten to the power of sixteen are written with a point
only, others with a power of ten.
-/

namespace WinrtLint.Double

/--
The reals that read as a double, and the double itself, as numerators over one
denominator.  The ends belong to it if the significand is even.
-/
structure Interval where
  low : Nat
  value : Nat
  high : Nat
  denominator : Nat
  withEnds : Bool
  deriving DecidableEq, Repr

/--
The reals that read as a double above zero.  They reach half-way to its
neighbours, and the lower neighbour of a power of two is twice as near.
-/
def interval (significand : Nat) (exponent : Int) : Interval :=
  let below := if significand = fullSignificand && leastExponent < exponent then 1 else 2
  let factor := 1 <<< (exponent - 2).toNat
  { low := (4 * significand - below) * factor
    value := 4 * significand * factor
    high := (4 * significand + 2) * factor
    denominator := 1 <<< (2 - exponent).toNat
    withEnds := significand % 2 = 0 }

/-- A number times a power of ten, over the denominator of an interval. -/
def tenfold (interval : Interval) (number : Nat) (power : Int) : Nat :=
  number * interval.denominator * Nat.pow 10 power.toNat

/-- Whether a number times a power of ten reads as the double. -/
def Interval.holds (interval : Interval) (number : Nat) (power : Int) : Bool :=
  let here := tenfold interval number power
  let scale := Nat.pow 10 (-power).toNat
  if interval.withEnds then interval.low * scale ≤ here && here ≤ interval.high * scale
  else interval.low * scale < here && here < interval.high * scale

/-- The power of ten of the first digit. -/
def Interval.magnitude (interval : Interval) : Int :=
  if interval.denominator ≤ interval.value then
    (Nat.toDigits 10 (interval.value / interval.denominator)).length - 1
  else -(Nat.toDigits 10 (interval.denominator / interval.value)).length

/-- The number that is nearest to the double in units of a power of ten, if one reads as it. -/
def Interval.nearest? (interval : Interval) (power : Int) : Option Nat :=
  let scale := Nat.pow 10 (-power).toNat
  let unit := tenfold interval 1 power
  let whole := interval.value * scale / unit
  match interval.holds whole power, interval.holds (whole + 1) power with
  | false, false => none
  | true, false => some whole
  | false, true => some (whole + 1)
  | true, true => some (roundToEven (interval.value * scale) unit)

/-- The greatest count of digits that is ever needed. -/
def mostDigits : Nat :=
  17

/-- Decimal digits and the power of ten by which they are multiplied. -/
structure Digits where
  digits : Nat
  power : Int
  deriving DecidableEq, Repr

/-- The fewest digits, a given count of them at least, that read as the double. -/
def Interval.shortest (interval : Interval) : Nat → Nat → Digits
  | 0, _ => ⟨0, 0⟩
  | tries + 1, count =>
      let power := interval.magnitude - count + 1
      match interval.nearest? power with
      | some digits => ⟨digits, power⟩
      | none => interval.shortest tries (count + 1)

/-- The digits of a double, their trailing zeros left out, and where the point stands. -/
def decimal (significand : Nat) (exponent : Int) : List Char × Int :=
  if significand = 0 then (['0'], 1)
  else
    let found := (interval significand exponent).shortest mostDigits 1
    let digits := Nat.toDigits 10 found.digits
    ((digits.reverse.dropWhile (· = '0')).reverse, digits.length + found.power)

/-- Some zeros. -/
def zeros (count : Int) : List Char :=
  List.replicate count.toNat '0'

/-- Digits with a point behind the given count of them, and a digit on either side of it. -/
def positional (digits : List Char) (point : Int) : List Char :=
  if point ≤ 0 then '0' :: '.' :: zeros (-point) ++ digits
  else if digits.length ≤ point then digits ++ zeros (point - digits.length) ++ ['.', '0']
  else digits.take point.toNat ++ '.' :: digits.drop point.toNat

/-- An exponent with its sign and at least two digits. -/
def exponentText (exponent : Int) : List Char :=
  let digits := Nat.toDigits 10 exponent.natAbs
  (if exponent < 0 then '-' else '+') :: zeros (2 - digits.length) ++ digits

/-- Digits with a power of ten; a point stands behind the first of several. -/
def scientific (digits : List Char) (point : Int) : List Char :=
  let front :=
    match digits with
    | first :: second :: rest => first :: '.' :: second :: rest
    | few => few
  front ++ 'e' :: exponentText (point - 1)

/-- The spellings of what is not finite. -/
structure Spelling where
  infinity : String
  notANumber : String
  deriving DecidableEq, Repr

/-- The text of a double. -/
def write (spelling : Spelling) : Double → List Char
  | .notANumber => spelling.notANumber.toList
  | .infinite negative => (if negative then ['-'] else []) ++ spelling.infinity.toList
  | .finite negative significand exponent =>
      let (digits, point) := decimal significand exponent
      (if negative then ['-'] else []) ++
        if -4 < point && point ≤ 16 then positional digits point
        else scientific digits point

end WinrtLint.Double
