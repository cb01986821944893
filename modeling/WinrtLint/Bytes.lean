/-!
# Byte strings

A byte string is an array of bytes.  Numbers in it are little-endian.  Reading
a word never fails: bytes past the end count as zero, so whoever needs them to
be there asks with `holds` first.
-/

namespace WinrtLint

/-- A string of bytes. -/
abbrev Bytes : Type :=
  Array UInt8

namespace Bytes

/-- The byte at an offset, zero past the end. -/
def byteAt (data : Bytes) (offset : Nat) : Nat :=
  match data[offset]? with
  | some byte => byte.toNat
  | none => 0

/-- The little-endian number in the given count of bytes at an offset. -/
def word (data : Bytes) (offset : Nat) : Nat → Nat
  | 0 => 0
  | width + 1 => byteAt data offset + 256 * word data (offset + 1) width

/-- Whether a byte string reaches over the given count of bytes at an offset. -/
def holds (data : Bytes) (offset count : Nat) : Bool :=
  offset + count ≤ data.size

/-- The given count of bytes at an offset, fewer where the string ends before. -/
def slice (data : Bytes) (offset count : Nat) : Bytes :=
  data.extract offset (offset + count)

/-- Offset of the first zero byte at or after an offset, if there is one. -/
def zeroFrom? (data : Bytes) (offset : Nat) : Option Nat :=
  if inside : offset < data.size then
    if data[offset] = 0 then some offset else zeroFrom? data (offset + 1)
  else none
termination_by data.size - offset

/-- The bytes of a number, least significant first, in the given width. -/
def ofWord : Nat → Nat → List UInt8
  | 0, _ => []
  | width + 1, value => UInt8.ofNat (value % 256) :: ofWord width (value / 256)

/-- The number that a hexadecimal digit stands for; letters may be capital. -/
def hexDigit (char : Char) : Nat :=
  if char.isDigit then char.toNat - 48 else char.toLower.toNat - 87

/-- Bytes followed by those that pairs of hexadecimal digits stand for. -/
def pushHex (data : Bytes) : List Char → Bytes
  | high :: low :: rest =>
      pushHex (data.push (UInt8.ofNat (16 * hexDigit high + hexDigit low))) rest
  | _ => data

/-- The bytes that a hexadecimal text spells, two digits a byte. -/
def ofHex (text : String) : Bytes :=
  pushHex #[] text.toList

/-- The hexadecimal text of bytes. -/
def toHex (data : Bytes) : String :=
  String.ofList (data.toList.flatMap fun byte =>
    [Nat.digitChar (byte.toNat / 16), Nat.digitChar (byte.toNat % 16)])

/-- Bytes followed by a number of copies of others. -/
def pushCopies (data other : Bytes) : Nat → Bytes
  | 0 => data
  | count + 1 => pushCopies (data ++ other) other count

end Bytes

end WinrtLint
