import WinrtLint.Text.Hex
import WinrtLint.Text.Printable

/-!
# Quoted text

File names stand in messages between quotes.  Quotes are single unless the
text has a single quote and no double one.  The quote in use and the backslash
are written behind a backslash, and so are characters that do not print, by
letter or by number.
-/

namespace WinrtLint.Text.Quoted

/-- The quote for a text. -/
def quoteFor (text : List Char) : Char :=
  if text.contains '\'' && !text.contains '"' then '"' else '\''

/-- The escape of a code point by its number. -/
def numberEscape (code : Nat) : List Char :=
  if code < 0x100 then '\\' :: 'x' :: (Hex.digits 2 code).toList
  else if code < 0x10000 then '\\' :: 'u' :: (Hex.digits 4 code).toList
  else '\\' :: 'U' :: (Hex.digits 8 code).toList

/-- How a character is written between the given quotes; others than `shows` by number. -/
def writeCharWith (shows : Char → Bool) (quote char : Char) : List Char :=
  if char = quote || char = '\\' then ['\\', char]
  else if char = '\n' then ['\\', 'n']
  else if char = '\r' then ['\\', 'r']
  else if char = '\t' then ['\\', 't']
  else if shows char then [char]
  else numberEscape char.toNat

/-- How a character is written between the given quotes. -/
def writeChar : Char → Char → List Char :=
  writeCharWith isPrintable

/-- A text between quotes, whose characters are written in a given way. -/
def writeWith (writeOne : Char → Char → List Char) (text : String) : String :=
  let chars := text.toList
  let quote := quoteFor chars
  String.ofList (quote :: chars.flatMap (writeOne quote) ++ [quote])

/-- A text between quotes. -/
def write : String → String :=
  writeWith writeChar

/-- A text between quotes in ASCII. -/
def writeAscii : String → String :=
  writeWith (writeCharWith fun char => 0x20 ≤ char.toNat && char.toNat < 0x7F)

end WinrtLint.Text.Quoted
