/-!
# Style sequences

A terminal is told a style by a sequence of characters: escape, an opening
bracket, numbers with semicolons or question marks, and a letter.  Output that
goes elsewhere is written without them.
-/

namespace WinrtLint.Terminal.Style

/-- The character that begins a sequence. -/
def escape : Char :=
  '\x1b'

/-- A character that may stand between the bracket and the letter. -/
def isParameter (char : Char) : Bool :=
  char.isDigit || char = ';' || char = '?'

/--
Drop the sequences of a text.  What may be the beginning of a sequence is held
back, last first, until it turns out not to be one.
-/
def dropFrom (held : List Char) : List Char → List Char
  | [] => held.reverse
  | char :: rest =>
      let continues :=
        match held with
        | [] => false
        | [_] => char = '['
        | _ => isParameter char
      if continues then dropFrom (char :: held) rest
      else if 2 ≤ held.length && char.isAlpha then dropFrom [] rest
      else if char = escape then held.reverse ++ dropFrom [escape] rest
      else held.reverse ++ char :: dropFrom [] rest

/-- A text without style sequences. -/
def drop (text : String) : String :=
  String.ofList (dropFrom [] text.toList)

end WinrtLint.Terminal.Style
