import WinrtLint.Text.Hex

/-!
# Malformed archives

Every way in which the bytes of an archive can fail to be an executable image
with metadata, and the wording of each.
-/

namespace WinrtLint.Archive

/-- A read that reaches past the end of its bytes. -/
structure Shortage where
  /-- Where the read begins. -/
  offset : Nat
  /-- How many bytes it takes. -/
  count : Nat
  /-- How many bytes there are. -/
  size : Nat
  deriving DecidableEq, Repr

/-- The wording of a read past the end. -/
def Shortage.message (shortage : Shortage) : String :=
  "at offset " ++ Text.Hex.ofNat shortage.offset ++
    ": unpack_from requires a buffer of at least " ++
    toString (shortage.offset + shortage.count) ++ " bytes for unpacking " ++
    toString shortage.count ++ " bytes at offset " ++ toString shortage.offset ++
    " (actual buffer size is " ++ toString shortage.size ++ ")"

/-- Why bytes are not a well-formed image or metadata. -/
inductive FormatError where
  | noDosSignature
  | noImageSignature
  | truncatedImage (shortage : Shortage)
  | unknownMagic (magic : Nat)
  | addressOutside (address : Int)
  | metadataPastEnd
  | truncatedMetadata (shortage : Shortage)
  | badSignature (signature : Nat)
  | unterminatedStreamName
  | streamPastEnd (name : String)
  | noTableStream
  | tablePastEnd (table : Nat)
  | stringOutside (offset : Nat)
  | rowOutside (row table : Nat)
  | tagOutside (tag : Nat)
  deriving DecidableEq, Repr

/-- The wording of a format error. -/
def FormatError.message : FormatError → String
  | .noDosSignature => "missing MZ signature"
  | .noImageSignature => "missing PE signature"
  | .truncatedImage shortage => "truncated image " ++ shortage.message
  | .unknownMagic magic => "unknown optional header magic " ++ Text.Hex.ofNat magic
  | .addressOutside address =>
      "RVA " ++ Text.Hex.ofInt address ++ " is outside every section"
  | .metadataPastEnd => "metadata section runs past end of file"
  | .truncatedMetadata shortage => "truncated metadata " ++ shortage.message
  | .badSignature signature => "bad metadata signature " ++ Text.Hex.ofNat signature
  | .unterminatedStreamName => "unterminated stream name"
  | .streamPastEnd name => "stream " ++ name ++ " runs past end of metadata"
  | .noTableStream => "metadata has no table stream"
  | .tablePastEnd table =>
      "table " ++ Text.Hex.ofTable table ++ " runs past end of stream"
  | .stringOutside offset =>
      "string offset " ++ Text.Hex.ofNat offset ++ " outside #Strings heap"
  | .rowOutside row table =>
      "row " ++ toString row ++ " out of range for table " ++ Text.Hex.ofTable table
  | .tagOutside tag => "coded index tag " ++ toString tag ++ " out of range"

end WinrtLint.Archive
