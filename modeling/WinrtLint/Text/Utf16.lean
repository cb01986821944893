/-!
# Texts in pairs of bytes

In UTF-16 a character takes one unit of two bytes, or two units that form a
surrogate pair.  A text in which half of such a pair stands alone, or with an
odd count of bytes, is refused.
-/

namespace WinrtLint.Text.Utf16

/-- The units of some bytes, behind those already read, which come reversed. -/
def unitsFrom? (bigEndian : Bool) (units : List Nat) :
    List UInt8 → Option (List Nat)
  | [] => some units.reverse
  | [_] => none
  | first :: second :: rest =>
      let unit :=
        if bigEndian then 256 * first.toNat + second.toNat
        else first.toNat + 256 * second.toNat
      unitsFrom? bigEndian (unit :: units) rest

/-- Whether a unit is the first half of a surrogate pair. -/
def isHigh (unit : Nat) : Bool :=
  0xD800 ≤ unit && unit ≤ 0xDBFF

/-- Whether a unit is the second half of a surrogate pair. -/
def isLow (unit : Nat) : Bool :=
  0xDC00 ≤ unit && unit ≤ 0xDFFF

/-- The characters of some units, behind those already read, which come reversed. -/
def charsFrom? (chars : List Char) : List Nat → Option (List Char)
  | [] => some chars.reverse
  | [unit] =>
      if isHigh unit || isLow unit then none
      else some (Char.ofNat unit :: chars).reverse
  | unit :: next :: rest =>
      if isHigh unit && isLow next then
        let point := 0x10000 + 0x400 * (unit - 0xD800) + (next - 0xDC00)
        charsFrom? (Char.ofNat point :: chars) rest
      else if isHigh unit || isLow unit then none
      else charsFrom? (Char.ofNat unit :: chars) (next :: rest)

/-- The text of some bytes. -/
def decode? (bigEndian : Bool) (bytes : List UInt8) : Option (List Char) := do
  charsFrom? [] (← unitsFrom? bigEndian [] bytes)

end WinrtLint.Text.Utf16
