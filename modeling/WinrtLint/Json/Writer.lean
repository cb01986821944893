import WinrtLint.Json.Value
import WinrtLint.Text.Blank
import WinrtLint.Text.Hex

/-!
# Writing JSON

Values are written over several lines, each level two spaces further in.  Only
printable ASCII is written as it is; a character beyond the first plane becomes
two escapes, one for each half of its surrogate pair.
-/

namespace WinrtLint.Json

/-- The escape of a code unit. -/
def unitEscape (unit : Nat) : List Char :=
  '\\' :: 'u' :: (Text.Hex.digits 4 unit).toList

/-- How a character is written in a string. -/
def writeChar (char : Char) : List Char :=
  if char = '"' then ['\\', '"']
  else if char = '\\' then ['\\', '\\']
  else if char = '\n' then ['\\', 'n']
  else if char = '\r' then ['\\', 'r']
  else if char = '\t' then ['\\', 't']
  else if char = '\x08' then ['\\', 'b']
  else if char = '\x0c' then ['\\', 'f']
  else if 0x20 ≤ char.toNat && char.toNat < 0x7F then [char]
  else if char.toNat < 0x10000 then unitEscape char.toNat
  else
    let offset := char.toNat - 0x10000
    unitEscape (0xD800 + offset / 0x400) ++ unitEscape (0xDC00 + offset % 0x400)

/-- How a code point is written in a string; half of a surrogate pair is its own escape. -/
def writePoint (point : Nat) : List Char :=
  if isHalf point then unitEscape point else writeChar (Char.ofNat point)

/-- A string in quotes. -/
def writeString (text : LooseText) : List Char :=
  '"' :: text.points.flatMap writePoint ++ ['"']

/-- How numbers that are not finite are written. -/
def writtenSpelling : Double.Spelling :=
  ⟨"Infinity", "NaN"⟩

/-- The start of a line at a level. -/
def lineStart (level : Nat) : List Char :=
  '\n' :: List.replicate (2 * level) ' '

mutual

/-- A value whose brackets stand at a level. -/
def writeAt (level : Nat) : Value → List Char
  | .null => "null".toList
  | .bool true => "true".toList
  | .bool false => "false".toList
  | .number value => value.write writtenSpelling
  | .string text => writeString text
  | .array [] => ['[', ']']
  | .array (item :: items) =>
      '[' :: lineStart (level + 1) ++ writeAt (level + 1) item ++
        writeItems (level + 1) items ++ lineStart level ++ [']']
  | .object [] => ['\x7b', '\x7d']
  | .object ((name, value) :: fields) =>
      '\x7b' :: lineStart (level + 1) ++ writeString name ++ [':', ' '] ++
        writeAt (level + 1) value ++ writeFields (level + 1) fields ++
        lineStart level ++ ['\x7d']

/-- The further items of an array, each behind a comma. -/
def writeItems (level : Nat) : List Value → List Char
  | [] => []
  | item :: rest =>
      ',' :: lineStart level ++ writeAt level item ++ writeItems level rest

/-- The further fields of an object, each behind a comma. -/
def writeFields (level : Nat) : List (LooseText × Value) → List Char
  | [] => []
  | (name, value) :: rest =>
      ',' :: lineStart level ++ writeString name ++ [':', ' '] ++
        writeAt level value ++ writeFields level rest

end

/-- The text of a value. -/
def write (value : Value) : String :=
  String.ofList (writeAt 0 value)

end WinrtLint.Json
