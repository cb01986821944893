import WinrtLint.Text.Charset.Decode
import WinrtLint.Text.Utf16
import WinrtLint.Xml.Declaration

/-!
# Encodings of documents

A document is in UTF-8 unless it begins like one in UTF-16, or declares
another encoding of single bytes.
-/

namespace WinrtLint.Xml

/-- Why the bytes of a document are no text. -/
inductive EncodingFault where
  /-- The bytes do not fit the encoding, or the encoding does not fit the document. -/
  | malformed
  /-- No encoding has the declared name. -/
  | unknown
  /-- The declared encoding takes several bytes for a character. -/
  | multiByte
  /-- In the declared encoding no bytes at all are text. -/
  | empty
  /-- In the declared encoding bytes beyond ASCII are no text. -/
  | strict
  deriving DecidableEq, Repr

namespace Encoding

/-- How many bytes the characters of the markup take. -/
inductive Width where
  | one
  | two (bigEndian : Bool)
  deriving DecidableEq, Repr

/-- How wide the characters of a document are, and its bytes without the byte order mark. -/
def widthOf : List UInt8 → Width × List UInt8
  | 0xEF :: 0xBB :: 0xBF :: rest => (.one, rest)
  | 0xFE :: 0xFF :: rest => (.two true, rest)
  | 0xFF :: 0xFE :: rest => (.two false, rest)
  | 0 :: second :: rest => (.two true, 0 :: second :: rest)
  | first :: 0 :: rest => (.two false, first :: 0 :: rest)
  | bytes => (.one, bytes)

/-- The encoding that a document declares. -/
def declared? (text : List Char) : Option String :=
  (Declaration.take? text).bind fun (declaration, _) => declaration.encoding

/-- The encoding that a document of single bytes declares; its declaration is in ASCII. -/
def declaredIn? (bytes : List UInt8) : Option String :=
  let front := bytes.takeWhile (· ≠ 0x3E)
  declared? (front.map (fun byte => Char.ofNat byte.toNat) ++ ['>'])

/-- The names of the encodings that every reader of documents knows. -/
def commonNames : List String :=
  ["utf-8", "iso-8859-1", "us-ascii", "utf-16", "utf-16be", "utf-16le"]

/-- Why a document cannot be in the encoding of a name that does not fit its width. -/
def misfit (name : String) : EncodingFault :=
  if commonNames.contains name then .malformed
  else
    match Text.Charset.find? name with
    | none => .unknown
    | some .multiByte => .multiByte
    | some .empty => .empty
    | some .strict => .strict
    | some _ => .malformed

/-- The text, or a fault where there is none. -/
def orMalformed (text : Option (List Char)) :
    Except EncodingFault (List Char) :=
  match text with
  | some text => .ok text
  | none => .error .malformed

/-- The text of single bytes in an encoding of a name. -/
def decodeNamed (name : String) (bytes : List UInt8) :
    Except EncodingFault (List Char) :=
  if name = "utf-8" then orMalformed (Text.Utf8.decode? bytes)
  else
    match Text.Charset.find? name with
    | some (.single repertoire) => orMalformed (Text.Charset.decode? repertoire bytes)
    | _ => .error (misfit name)

/-- The text of pairs of bytes. -/
def decodePairs (bigEndian : Bool) (bytes : List UInt8) :
    Except EncodingFault (List Char) := do
  let text ← orMalformed (Text.Utf16.decode? bigEndian bytes)
  match (declared? text).map Text.Ascii.lower with
  | none => return text
  | some name =>
      if name = "utf-16" || name = (if bigEndian then "utf-16be" else "utf-16le") then
        return text
      else throw (misfit name)

/-- The text of a document's bytes. -/
def decode (bytes : List UInt8) : Except EncodingFault (List Char) :=
  match widthOf bytes with
  | (.one, bytes) => decodeNamed (((declaredIn? bytes).map Text.Ascii.lower).getD "utf-8") bytes
  | (.two bigEndian, bytes) => decodePairs bigEndian bytes

end Encoding

end WinrtLint.Xml
