import WinrtLint.Archive.FormatError
import WinrtLint.Bytes
import WinrtLint.Text.Utf8

/-!
# Executable images

An archive is a portable executable.  Of its layout only the way to the
metadata is read: the headers, the table of sections, which maps relative
virtual addresses to offsets in the file, and the header of the common
language infrastructure in data directory 14.
-/

namespace WinrtLint.Archive

/-- One entry of the table of sections. -/
structure Section where
  name : String
  virtualAddress : Nat
  virtualSize : Nat
  rawOffset : Nat
  rawSize : Nat
  deriving DecidableEq, Repr

namespace Section

/-- How many addresses a section covers. -/
def span (part : Section) : Nat :=
  max part.virtualSize part.rawSize

/-- Whether a section covers an address. -/
def covers (part : Section) (address : Int) : Bool :=
  (part.virtualAddress : Int) ≤ address &&
    address < (part.virtualAddress + part.span : Nat)

/-- The offset in the file of an address that the section covers. -/
def offsetOf (part : Section) (address : Int) : Nat :=
  (address - part.virtualAddress).toNat + part.rawOffset

end Section

/-- A range of addresses: where it begins and how long it is. -/
structure Directory where
  address : Nat
  size : Nat
  deriving DecidableEq, Repr

/-- Whether a directory refers to nothing. -/
def Directory.isEmpty (directory : Directory) : Bool :=
  directory.address = 0 || directory.size = 0

/-- An image whose headers have been read. -/
structure Image where
  data : Bytes
  sections : List Section
  /-- Where the header of the common language infrastructure is. -/
  cliDirectory : Directory

namespace Image

/-- Make sure that an image reaches over some bytes. -/
def need (data : Bytes) (offset count : Nat) : Except FormatError Unit :=
  if data.holds offset count then .ok ()
  else .error (.truncatedImage ⟨offset, count, data.size⟩)

/-- The number in some bytes of an image, which have to be there. -/
def word (data : Bytes) (offset width : Nat) : Except FormatError Nat := do
  need data offset width
  return data.word offset width

/-- Offset of the word that holds the offset of the image's signature. -/
def signaturePointer : Nat :=
  0x3C

/-- How many bytes the file header takes. -/
def fileHeaderSize : Nat :=
  20

/-- How many bytes an entry of the table of sections takes. -/
def sectionHeaderSize : Nat :=
  40

/-- The number of the data directory that leads to the metadata. -/
def cliDirectoryNumber : Nat :=
  14

/-- Where the data directories begin in an optional header of a given magic. -/
def directoriesOffset? (magic : Nat) : Option Nat :=
  if magic = 0x10B then some 96
  else if magic = 0x20B then some 112
  else none

/-- Read an entry of the table of sections. -/
def readSection (data : Bytes) (offset : Nat) : Except FormatError Section := do
  need data offset 24
  let rawName := (data.slice offset 8).toList
  return {
    name := Text.Ascii.decodeReplacing
      (rawName.reverse.dropWhile (· = 0)).reverse
    virtualSize := data.word (offset + 8) 4
    virtualAddress := data.word (offset + 12) 4
    rawSize := data.word (offset + 16) 4
    rawOffset := data.word (offset + 20) 4 }

/-- Read the given count of entries of the table of sections. -/
def readSections (data : Bytes) (offset : Nat) :
    Nat → Except FormatError (List Section)
  | 0 => .ok []
  | count + 1 => do
      let first ← readSection data offset
      let rest ← readSections data (offset + sectionHeaderSize) count
      return first :: rest

/--
Read the directory that leads to the metadata, given where the data directories
begin.  How many there are stands right before them.
-/
def readCliDirectory (data : Bytes) (directories : Nat) :
    Except FormatError Directory := do
  let directoryCount ← word data (directories - 4) 4
  if cliDirectoryNumber < directoryCount then
    let entry := directories + 8 * cliDirectoryNumber
    need data entry 8
    return ⟨data.word entry 4, data.word (entry + 4) 4⟩
  else return ⟨0, 0⟩

/-- Read the headers of an image. -/
def parse (data : Bytes) : Except FormatError Image := do
  if data.slice 0 2 ≠ #[0x4D, 0x5A] then throw .noDosSignature
  let signature ← word data signaturePointer 4
  if data.slice signature 4 ≠ #[0x50, 0x45, 0, 0] then throw .noImageSignature
  let header := signature + 4
  need data header fileHeaderSize
  let sectionCount := data.word (header + 2) 2
  let optionalSize := data.word (header + 16) 2
  let optional := header + fileHeaderSize
  let magic ← word data optional 2
  match directoriesOffset? magic with
  | none => throw (.unknownMagic magic)
  | some start =>
      let cliDirectory ← readCliDirectory data (optional + start)
      let sections ← readSections data (optional + optionalSize) sectionCount
      return { data, sections, cliDirectory }

/-- The offset in the file of an address: the first section that covers it counts. -/
def offsetOf (image : Image) (address : Int) : Except FormatError Nat :=
  match image.sections.find? fun part => part.covers address with
  | some part => .ok (part.offsetOf address)
  | none => .error (.addressOutside address)

/-- Whether the image leads to metadata. -/
def hasMetadata (image : Image) : Bool :=
  !image.cliDirectory.isEmpty

/-- The metadata of an image, if it has any. -/
def metadata (image : Image) : Except FormatError (Option Bytes) := do
  if image.cliDirectory.isEmpty then return none
  let header ← image.offsetOf image.cliDirectory.address
  need image.data header 16
  let directory : Directory :=
    ⟨image.data.word (header + 8) 4, image.data.word (header + 12) 4⟩
  if directory.isEmpty then return none
  let start ← image.offsetOf directory.address
  if image.data.holds start directory.size then
    return some (image.data.slice start directory.size)
  else throw .metadataPastEnd

end Image

end WinrtLint.Archive
