import WinrtLint.Number.Shortest

/-!
# JSON numbers

A number without point and exponent is an integer of any size; every other one
is a double.
-/

namespace WinrtLint.Json

/-- A JSON number. -/
inductive Number where
  | integer (value : Int)
  | double (value : Double)
  deriving DecidableEq, Repr

namespace Number

/-- The number that digits stand for. -/
def natOf (digits : List Char) : Nat :=
  digits.foldl (fun sofar digit => 10 * sofar + (digit.toNat - '0'.toNat)) 0

/-- The integer of a sign and digits. -/
def ofDigits (negative : Bool) (digits : List Char) : Number :=
  .integer (Double.signed negative (natOf digits))

/-- How many digits of an exponent are read; one with more of them is out of all bounds. -/
def exponentDigits : Nat :=
  18

/-- The exponent of a sign and digits, or one that is as great for every purpose. -/
def exponentOf (negative : Bool) (digits : List Char) : Int :=
  let significant := digits.dropWhile (· = '0')
  Double.signed negative
    (if exponentDigits < significant.length then Nat.pow 10 exponentDigits else natOf significant)

/--
How many digits of a decimal are read.  The numbers half-way between two doubles
have fewer, so all that matters of the digits behind these is whether one of
them is not zero.
-/
def decisiveDigits : Nat :=
  800

/-- Digits and the power of ten by which they count, with one digit for those not read. -/
def condense (digits : List Char) (exponent : Int) : List Char × Int :=
  let significant := digits.dropWhile (· = '0')
  match significant.drop decisiveDigits with
  | [] => (significant, exponent)
  | unread =>
      (significant.take decisiveDigits ++ [if unread.all (· = '0') then '0' else '1'],
        exponent + unread.length - 1)

/-- The double of a sign, the digits before and behind the point and an exponent. -/
def ofParts (negative : Bool) (whole fraction : List Char) (exponent : Int) :
    Number :=
  let (digits, exponent) := condense (whole ++ fraction) (exponent - fraction.length)
  .double (.ofDecimal negative (natOf digits) exponent)

/-- Whether a number is zero. -/
def isZero : Number → Bool
  | .integer value => value = 0
  | .double value => value.isZero

/-- The form by which equal numbers are equal values: an integer where there is one. -/
def canonical : Number → Number
  | .integer value => .integer value
  | .double value =>
      match value.integer? with
      | some whole => .integer whole
      | none => .double value

/-- On which side of the finite numbers a number lies; no number lies on none. -/
def side? : Number → Option Int
  | .double .notANumber => none
  | .double (.infinite negative) => some (Double.signed negative 1)
  | _ => some 0

/-- A finite number as an integer times a power of two. -/
def binary : Number → Int × Int
  | .double (.finite negative significand exponent) =>
      (Double.signed negative significand, exponent)
  | .integer value => (value, 0)
  | _ => (0, 0)

/-- Whether a number is less than another one. -/
def less (left right : Number) : Bool :=
  match left.side?, right.side? with
  | some 0, some 0 =>
      let (leftFactor, leftPower) := left.binary
      let (rightFactor, rightPower) := right.binary
      leftFactor * (1 <<< (leftPower - rightPower).toNat : Nat) <
        rightFactor * (1 <<< (rightPower - leftPower).toNat : Nat)
  | some leftSide, some rightSide => leftSide < rightSide
  | _, _ => false

/-- The text of a number. -/
def write (spelling : Double.Spelling) : Number → List Char
  | .integer value => (toString value).toList
  | .double value => value.write spelling

end Number

end WinrtLint.Json
