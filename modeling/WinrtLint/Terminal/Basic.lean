import WinrtLint.Terminal.Markup
import WinrtLint.Terminal.Wrap
import WinrtLint.Warning

/-!
# The terminal

The program uses a few glyphs beyond ASCII.  On a terminal whose encoding is
not UTF-8 they are shown by ASCII characters instead.
-/

namespace WinrtLint

/-- A terminal, by the name of its encoding. -/
structure Terminal where
  encoding : String
  deriving DecidableEq, Repr

namespace Terminal

/-- A terminal whose encoding is UTF-8. -/
def unicode : Terminal :=
  ⟨"utf-8"⟩

/--
The terminal behind the output: its encoding is the one that the output
states, else the one of the locale, else ASCII.  Names of encodings are
written in lower case.
-/
def detect (stated locale : Option String) : Terminal :=
  match stated.getD "", locale with
  | "", none => ⟨"ascii"⟩
  | "", some name => ⟨Text.lower name⟩
  | name, _ => ⟨Text.lower name⟩

/-- Whether a terminal's encoding is UTF-8; dashes and underscores do not matter. -/
def showsUnicode (terminal : Terminal) : Bool :=
  terminal.encoding.toList.filter (fun char => char ≠ '-' && char ≠ '_') = "utf8".toList

/-- The ASCII characters that stand in for a glyph. -/
def substitute? : Char → Option String
  | '✓' => some "[OK]"
  | '✗' => some "[FAIL]"
  | '⚠' => some "[WARN]"
  | '→' => some "->"
  | '•' => some "*"
  | '…' => some "..."
  | '─' => some "-"
  | '│' => some "|"
  | _ => none

/-- How a character is shown where glyphs are substituted. -/
def shownChar (char : Char) : List Char :=
  match substitute? char with
  | some text => text.toList
  | none => [char]

/-- A text as a terminal can show it. -/
def sanitize (terminal : Terminal) (text : String) : String :=
  if terminal.showsUnicode then text else String.ofList (text.toList.flatMap shownChar)

/-- The line of a warning on a terminal. -/
def warningLine (terminal : Terminal) (warning : Warning) : String :=
  terminal.sanitize warning.line

/-- What is printed of warnings of one source. -/
def warned (terminal : Terminal) (source : String) (texts : List String) :
    String :=
  String.join (texts.map fun text => terminal.warningLine ⟨source, text⟩ ++ "\n")

/-- The lines of several texts with markup that are printed together. -/
def printLines (terminal : Terminal) (texts : List String) : List String :=
  let shown := texts.map fun text => Markup.plain (terminal.sanitize text)
  (wrap outputWidth .fold (Text.joinStrings " " shown).toList).map String.ofList

/-- What is printed of several texts with markup, unless there is a fault in one of them. -/
def printed (terminal : Terminal) (texts : List String) :
    Except Markup.Fault String := do
  let openings ← texts.mapM fun text => Markup.openings (terminal.sanitize text)
  for opening in openings.flatten do opening.applyStyle
  return Text.joinStrings "\n" (terminal.printLines texts) ++ "\n"

end Terminal

end WinrtLint
