import WinrtLint.Json.Value
import WinrtLint.Text.Blank

/-!
# Reading JSON

The grammar is that of the standard, and beside it the literals `NaN`,
`Infinity` and `-Infinity` are numbers.  Integers have a greatest length and
values a deepest nesting; a text is read from the left, so the first of its
faults counts.
-/

namespace WinrtLint.Json

/-- Why a text cannot be read. -/
inductive ReadFault where
  /-- The text is not JSON. -/
  | malformed
  /-- An integer has too many digits. -/
  | integerTooLong (digits : Nat)
  /-- Arrays and objects are nested too deep. -/
  | nestedTooDeep
  deriving DecidableEq, Repr

/-- The most digits that an integer may have. -/
def longestInteger : Nat :=
  4300

/-- How many arrays and objects may be open at once. -/
def deepestNesting : Nat :=
  985

/-- Whether a character may stand between the parts of a value. -/
def isGap (char : Char) : Bool :=
  char = ' ' || char = '\t' || char = '\n' || char = '\r'

/-- A text without the gap in front of it. -/
def skipGap (text : List Char) : List Char :=
  text.dropWhile isGap

/-- The value of a hexadecimal digit. -/
def hexDigit? (char : Char) : Option Nat :=
  if char.isDigit then some (char.toNat - '0'.toNat)
  else if 'a' ≤ char && char ≤ 'f' then some (char.toNat - 'a'.toNat + 10)
  else if 'A' ≤ char && char ≤ 'F' then some (char.toNat - 'A'.toNat + 10)
  else none

/-- The code unit that four hexadecimal digits stand for. -/
def codeUnit? (first second third fourth : Char) : Option Nat := do
  return ((← hexDigit? first) * 16 + (← hexDigit? second)) * 256 +
    (← hexDigit? third) * 16 + (← hexDigit? fourth)

/-- The character that a letter behind a backslash stands for. -/
def escape? (letter : Char) : Option Char :=
  match letter with
  | '"' => some '"'
  | '\\' => some '\\'
  | '/' => some '/'
  | 'b' => some '\x08'
  | 'f' => some '\x0c'
  | 'n' => some '\n'
  | 'r' => some '\r'
  | 't' => some '\t'
  | _ => none

/-- The code point of a surrogate pair. -/
def pairPoint (high low : Nat) : Nat :=
  0x10000 + (high - 0xD800) * 0x400 + (low - 0xDC00)

/--
The code points of a string up to its closing quote, and the rest.  The first
half of a surrogate pair waits in `half` for the other one.
-/
def takeString? : Option Nat → List Char → Option (List Nat × List Char)
  | _, [] => none
  | half, '\\' :: 'u' :: first :: second :: third :: fourth :: rest => do
      let unit ← codeUnit? first second third fourth
      match half with
      | some high =>
          if isLowHalf unit then do
            let (text, rest) ← takeString? none rest
            return (pairPoint high unit :: text, rest)
          else if isHighHalf unit then do
            let (text, rest) ← takeString? (some unit) rest
            return (high :: text, rest)
          else do
            let (text, rest) ← takeString? none rest
            return (high :: unit :: text, rest)
      | none =>
          if isHighHalf unit then takeString? (some unit) rest
          else do
            let (text, rest) ← takeString? none rest
            return (unit :: text, rest)
  | half, '\\' :: letter :: rest => do
      let char ← escape? letter
      let (text, rest) ← takeString? none rest
      return (half.toList ++ char.toNat :: text, rest)
  | half, char :: rest =>
      if char = '"' then some (half.toList, rest)
      else if char = '\\' || char.toNat < 0x20 then none
      else do
        let (text, rest) ← takeString? none rest
        return (half.toList ++ char.toNat :: text, rest)

/-- The whole part of a number at the front of a text, and the rest. -/
def takeWhole? : List Char → Option (List Char × List Char)
  | '0' :: rest => some (['0'], rest)
  | text =>
      let digits := text.takeWhile Char.isDigit
      if digits.isEmpty then none else some (digits, text.dropWhile Char.isDigit)

/-- The digits behind a point, if both are there, and the rest. -/
def takeFraction : List Char → Option (List Char) × List Char
  | '.' :: text =>
      let digits := text.takeWhile Char.isDigit
      if digits.isEmpty then (none, '.' :: text)
      else (some digits, text.dropWhile Char.isDigit)
  | text => (none, text)

/-- The exponent of a number, if it is complete, and the rest. -/
def takeExponent (text : List Char) : Option Int × List Char :=
  match text with
  | mark :: after =>
      if mark = 'e' || mark = 'E' then
        let (negative, digitsOn) :=
          match after with
          | '+' :: digitsOn => (false, digitsOn)
          | '-' :: digitsOn => (true, digitsOn)
          | _ => (false, after)
        let digits := digitsOn.takeWhile Char.isDigit
        if digits.isEmpty then (none, text)
        else
          (some (Number.exponentOf negative digits), digitsOn.dropWhile Char.isDigit)
      else (none, text)
  | [] => (none, [])

/-- A number at the front of a text, and the rest. -/
def takeNumber (text : List Char) : Except ReadFault (Number × List Char) :=
  let (negative, unsigned) :=
    match text with
    | '-' :: unsigned => (true, unsigned)
    | _ => (false, text)
  match takeWhole? unsigned with
  | none => .error .malformed
  | some (whole, rest) =>
      let (fraction, rest) := takeFraction rest
      let (exponent, rest) := takeExponent rest
      if fraction.isNone && exponent.isNone then
        if longestInteger < whole.length then .error (.integerTooLong whole.length)
        else .ok (.ofDigits negative whole, rest)
      else .ok (.ofParts negative whole (fraction.getD []) (exponent.getD 0), rest)

/-- The literals that are no numbers in digits, with their values. -/
def literals : List (String × Value) :=
  [("null", .null), ("true", .bool true), ("false", .bool false),
    ("NaN", .number (.double .notANumber)),
    ("Infinity", .number (.double (.infinite false))),
    ("-Infinity", .number (.double (.infinite true)))]

/-- A value without parts at the front of a text, and the rest. -/
def takeScalar (text : List Char) : Except ReadFault (Value × List Char) :=
  let literal := literals.findSome? fun entry =>
    (Text.afterStart? entry.1.toList text).map fun rest => (entry.2, rest)
  match literal with
  | some found => .ok found
  | none => (takeNumber text).map fun (number, rest) => (.number number, rest)

/-- A string whose opening quote has been read, and the rest. -/
def takeString (text : List Char) : Except ReadFault (LooseText × List Char) :=
  match takeString? none text with
  | none => .error .malformed
  | some (points, rest) => .ok (.ofPoints points, rest)

mutual

/--
A value at the front of a text, and the rest.  The first argument bounds the
count of steps, and `depth` tells how many arrays and objects may be opened
within each other.
-/
def takeValue : Nat → Nat → List Char → Except ReadFault (Value × List Char)
  | 0, _, _ => .error .malformed
  | _ + 1, _, '"' :: rest => do
      let (text, rest) ← takeString rest
      return (.string text, rest)
  | _ + 1, 0, '[' :: _ => .error .nestedTooDeep
  | _ + 1, 0, '\x7b' :: _ => .error .nestedTooDeep
  | bound + 1, depth + 1, '[' :: rest =>
      match skipGap rest with
      | ']' :: rest => .ok (.array [], rest)
      | rest => do
          let (items, rest) ← takeItems bound depth rest
          return (.array items, rest)
  | bound + 1, depth + 1, '\x7b' :: rest =>
      match skipGap rest with
      | '\x7d' :: rest => .ok (.object [], rest)
      | rest => do
          let (fields, rest) ← takeFields bound depth rest
          return (.object (Dictionary.ofList fields).entries, rest)
  | _ + 1, _, text => takeScalar text

/-- The items of an array up to its bracket, and the rest. -/
def takeItems : Nat → Nat → List Char → Except ReadFault (List Value × List Char)
  | 0, _, _ => .error .malformed
  | bound + 1, depth, text => do
      let (item, rest) ← takeValue bound depth text
      match skipGap rest with
      | ']' :: rest => return ([item], rest)
      | ',' :: rest => do
          let (items, rest) ← takeItems bound depth (skipGap rest)
          return (item :: items, rest)
      | _ => .error .malformed

/-- The fields of an object up to its bracket, and the rest. -/
def takeFields : Nat → Nat → List Char →
    Except ReadFault (List (LooseText × Value) × List Char)
  | 0, _, _ => .error .malformed
  | bound + 1, depth, '"' :: text => do
      let (name, rest) ← takeString text
      match skipGap rest with
      | ':' :: rest => do
          let (value, rest) ← takeValue bound depth (skipGap rest)
          match skipGap rest with
          | '\x7d' :: rest => return ([(name, value)], rest)
          | ',' :: rest => do
              let (fields, rest) ← takeFields bound depth (skipGap rest)
              return ((name, value) :: fields, rest)
          | _ => .error .malformed
      | _ => .error .malformed
  | _ + 1, _, _ => .error .malformed

end

/-- The value that a text spells, with nothing but gaps around it. -/
def read (text : List Char) : Except ReadFault Value := do
  let (value, rest) ← takeValue (text.length + 1) deepestNesting (skipGap text)
  if (skipGap rest).isEmpty then .ok value else .error .malformed

end WinrtLint.Json
