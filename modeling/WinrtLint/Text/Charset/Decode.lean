import WinrtLint.Text.Blank
import WinrtLint.Text.Charset.Table

/-!
# Texts in character sets of single bytes

Character sets are looked up by name.  Neither case nor the choice of
punctuation inside a name matters.
-/

namespace WinrtLint.Text.Charset

/-- The form of a name in the tables: small letters, and one underscore for punctuation. -/
def normalize (name : String) : List Char :=
  let marked := name.toList.map fun char =>
    if char.isAlphanum || char = '.' then char.toLower else '_'
  joinWith '_' ((pieces '_' marked).filter fun piece => !piece.isEmpty)

/-- The characters of a set of single bytes. -/
structure Repertoire where
  /-- The characters of the upper half; U+FFFD stands for none. -/
  upper : List Char := []
  /-- The characters of ASCII that are missing. -/
  lacks : List Char := []
  deriving DecidableEq, Repr

/-- What a name stands for among the character sets. -/
inductive Choice where
  /-- A set of single bytes. -/
  | single (repertoire : Repertoire)
  /-- A set whose characters take several bytes. -/
  | multiByte
  /-- A set whose lower half is not ASCII. -/
  | unsuited
  /-- An encoding in which no bytes at all are text. -/
  | empty
  /-- An encoding in which bytes beyond ASCII make the whole no text. -/
  | strict
  deriving DecidableEq, Repr

/-- The characters of a set. -/
def repertoire (charset : Charset) : Repertoire where
  upper := charset.upper.flatMap String.toList
  lacks := charset.lacks

/-- The choice that a name in the form of the tables makes. -/
def listed? (name : String) : Option Choice :=
  if asciiNames.contains name then some (.single {})
  else if multiByteNames.contains name then some .multiByte
  else if unsuitedNames.contains name then some .unsuited
  else if emptyNames.contains name then some .empty
  else if strictNames.contains name then some .strict
  else
    (tables.find? fun charset => charset.names.contains name).map fun charset =>
      .single charset.repertoire

/-- The choice that a name makes; a dot in it may stand for punctuation. -/
def find? (name : String) : Option Choice :=
  let form := normalize name
  (listed? (String.ofList form)).or
    (listed? (String.ofList (form.map fun char => if char = '.' then '_' else char)))

/-- The character of a byte, given those of the upper half and those that are missing. -/
def charOf? (upper : Array Char) (lacks : List Char) (byte : UInt8) :
    Option Char :=
  if byte < 128 then (some (Char.ofNat byte.toNat)).filter fun char => !lacks.contains char
  else (upper[byte.toNat - 128]?).filter (· ≠ '\uFFFD')

/-- The text of some bytes, given the characters of their set. -/
def decode? (repertoire : Repertoire) (bytes : List UInt8) :
    Option (List Char) :=
  let upper := repertoire.upper.toArray
  bytes.mapM (charOf? upper repertoire.lacks)

end WinrtLint.Text.Charset
