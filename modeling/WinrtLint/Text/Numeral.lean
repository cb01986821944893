import WinrtLint.Text.Blank

/-!
# Numerals as they are typed

A numeral is typed in ASCII digits.  White space may stand around it and a plus
sign in front; single underscores may stand between its digits, and zeros
behind a point at its end.  Zeros in front do not count, nor do underscores
among or behind them.
-/

namespace WinrtLint.Text

/-- White space that may stand around a numeral; the separators of records do not count. -/
def isMargin (char : Char) : Bool :=
  isBlank char && !(0x1C ≤ char.toNat && char.toNat ≤ 0x1F)

/-- The most characters that a numeral may have. -/
def longestNumeral : Nat :=
  4300

/-- Drop a zero in front with the zeros and underscores that follow it. -/
def dropLeadingZeros : List Char → List Char
  | '0' :: rest => rest.dropWhile fun char => char = '0' || char = '_'
  | text => text

/-- Drop a point with zeros behind it; behind a point there have to be zeros alone. -/
def dropZeroFraction? (text : List Char) : Option (List Char) :=
  match cutFirst '.' text with
  | (whole, none) => some whole
  | (whole, some zeros) =>
      if !zeros.isEmpty && zeros.all (· = '0') then some whole else none

/--
The value of digits, among which single underscores may stand; `sofar` is the
value of those before, and `awaiting` tells that a digit has to come next.
-/
def digitsFrom? (sofar : Nat) (awaiting : Bool) : List Char → Option Nat
  | [] => if awaiting then none else some sofar
  | '_' :: rest => if awaiting then none else digitsFrom? sofar true rest
  | char :: rest =>
      if char.isDigit then digitsFrom? (10 * sofar + (char.toNat - '0'.toNat)) false rest
      else none

/-- Drop one plus sign in front. -/
def dropPlus : List Char → List Char
  | '+' :: rest => rest
  | text => text

/-- The number, one or more, that a numeral stands for. -/
def positive? (text : List Char) : Option Nat := do
  let bare := dropBothWhile isMargin text
  if longestNumeral < bare.length then none
  let whole ← dropZeroFraction? (dropLeadingZeros (dropPlus bare))
  match ← digitsFrom? 0 true whole with
  | 0 => none
  | number => some number

end WinrtLint.Text
