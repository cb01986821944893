import WinrtLint.Json.Value
import WinrtLint.Text.Blank
import WinrtLint.Text.Quoted

/-!
# Values within a text

Where a value that is no text becomes part of one, it is shown as follows: the
truth values and null are capital words, numbers are written in their shortest
form, and the strings within arrays and objects stand in quotes.
-/

namespace WinrtLint.Json

/-- How numbers that are not finite are shown within a text. -/
def shownSpelling : Double.Spelling :=
  ⟨"inf", "nan"⟩

/-- A text in quotes; half of a surrogate pair is shown by its number. -/
def quoted : LooseText → String
  | .whole text => Text.Quoted.write text
  | .halved points =>
      let quote := Text.Quoted.quoteFor (points.map Char.ofNat)
      let inside := points.flatMap fun point =>
        if isHalf point then Text.Quoted.numberEscape point
        else Text.Quoted.writeChar quote (Char.ofNat point)
      String.ofList (quote :: inside ++ [quote])

mutual

/-- A value as it is shown within another one. -/
def showPart : Value → String
  | .null => "None"
  | .bool true => "True"
  | .bool false => "False"
  | .number value => String.ofList (value.write shownSpelling)
  | .string value => quoted value
  | .array items => "[" ++ Text.joinStrings ", " (showItems items) ++ "]"
  | .object fields => "\x7b" ++ Text.joinStrings ", " (showFields fields) ++ "\x7d"

/-- The items of an array as they are shown. -/
def showItems : List Value → List String
  | [] => []
  | item :: rest => showPart item :: showItems rest

/-- The fields of an object as they are shown. -/
def showFields : List (LooseText × Value) → List String
  | [] => []
  | (name, value) :: rest =>
      (quoted name ++ ": " ++ showPart value) :: showFields rest

end

/-- A value as it is shown; a string is shown as it is. -/
def Value.shown : Value → LooseText
  | .string value => value
  | value => .whole (showPart value)

end WinrtLint.Json
