import WinrtLint.Archive.FormatError
import WinrtLint.Bytes
import WinrtLint.Dictionary
import WinrtLint.Text.Utf8

/-!
# The root of the metadata

The root names the version of the metadata and lists its streams.  A stream
has a name, padded with zero bytes to a multiple of four, and covers a range
of the metadata.
-/

namespace WinrtLint.Archive

/-- A range of the metadata. -/
structure Extent where
  start : Nat
  size : Nat
  deriving DecidableEq, Repr

/-- The root of the metadata. -/
structure Root where
  version : String
  /-- The streams by name; the last one of a name counts. -/
  streams : Dictionary String Bytes

namespace Root

/-- Make sure that metadata reaches over some bytes. -/
def need (data : Bytes) (offset count : Nat) : Except FormatError Unit :=
  if data.holds offset count then .ok ()
  else .error (.truncatedMetadata ⟨offset, count, data.size⟩)

/-- The signature at the start of the metadata. -/
def signature : Nat :=
  0x424A5342

/-- The bytes before the first zero byte. -/
def untilZero (bytes : List UInt8) : List UInt8 :=
  bytes.takeWhile (· ≠ 0)

/-- How many bytes a name takes with its terminator and its padding. -/
def paddedLength (length : Nat) : Nat :=
  (length + 4) / 4 * 4

/--
Read the given count of stream headers, the first of them at an offset, for the
ranges of the streams by name.
-/
def readExtents (data : Bytes) :
    Nat → Nat → Dictionary String Extent → Except FormatError (Dictionary String Extent)
  | 0, _, extents => .ok extents
  | count + 1, offset, extents => do
      need data offset 8
      let extent := ⟨data.word offset 4, data.word (offset + 4) 4⟩
      let nameStart := offset + 8
      match data.zeroFrom? nameStart with
      | none => throw .unterminatedStreamName
      | some nameEnd =>
          let name := Text.Ascii.decodeReplacing (data.extract nameStart nameEnd).toList
          if data.holds extent.start extent.size then
            readExtents data count (nameStart + paddedLength (nameEnd - nameStart))
              (extents.insert name extent)
          else throw (.streamPastEnd name)

/-- Read the root of some metadata. -/
def parse (data : Bytes) : Except FormatError Root := do
  need data 0 16
  if data.word 0 4 ≠ signature then throw (.badSignature (data.word 0 4))
  let length := data.word 12 4
  let version := Text.Utf8.decodeReplacing (untilZero (data.slice 16 length).toList)
  need data (16 + length) 4
  let extents ←
    readExtents data (data.word (16 + length + 2) 2) (16 + length + 4) .empty
  return { version, streams := extents.map fun extent => data.slice extent.start extent.size }

/-- The stream that holds the tables. -/
def tableStream (root : Root) : Except FormatError Bytes :=
  match (root.streams.get? "#~").or (root.streams.get? "#-") with
  | some stream => .ok stream
  | none => .error .noTableStream

/-- The heap of strings. -/
def strings (root : Root) : Bytes :=
  (root.streams.get? "#Strings").getD #[]

end Root

end WinrtLint.Archive
