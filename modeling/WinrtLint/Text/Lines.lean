import WinrtLint.Text.Blank

/-!
# Lines of a text file

A text file is read as UTF-8 after which a carriage return, alone or before a
line feed, counts as a line feed.  Lines then end at any of the characters in
`lineBreaks`.
-/

namespace WinrtLint.Text

/-- The characters that end a line. -/
def lineBreaks : List Char :=
  ['\n', '\r', '\x0b', '\x0c', '\x1c', '\x1d', '\x1e', '\u0085', '\u2028',
    '\u2029']

/-- Whether a character ends a line. -/
def isLineBreak (char : Char) : Bool :=
  lineBreaks.contains char

/-- Write every carriage return, with a line feed after it or not, as one line feed. -/
def unifyLineFeeds : List Char → List Char
  | [] => []
  | '\r' :: '\n' :: rest => '\n' :: unifyLineFeeds rest
  | char :: rest =>
      (if char = '\r' then '\n' else char) :: unifyLineFeeds rest

/--
Lines of a text that continues a line whose characters so far, last first, are
`current`.  A line break at the very end opens no further line.
-/
def linesFrom (current : List Char) : List Char → List (List Char)
  | [] => if current.isEmpty then [] else [current.reverse]
  | '\r' :: '\n' :: rest => current.reverse :: linesFrom [] rest
  | char :: rest =>
      if isLineBreak char then current.reverse :: linesFrom [] rest
      else linesFrom (char :: current) rest

/-- The lines of a text without their line breaks. -/
def lines (text : List Char) : List (List Char) :=
  linesFrom [] text

/--
Pieces between line feeds of a text that continues a piece whose characters so
far, last first, are `current`.
-/
def feedLinesFrom (current : List Char) : List Char → List (List Char)
  | [] => [current.reverse]
  | char :: rest =>
      if char = '\n' then current.reverse :: feedLinesFrom [] rest
      else feedLinesFrom (char :: current) rest

/-- The pieces of a text between its line feeds; no other character ends one. -/
def feedLines (text : List Char) : List (List Char) :=
  feedLinesFrom [] text

/-- Drop one byte order mark at the beginning of a text. -/
def dropByteOrderMark : List Char → List Char
  | [] => []
  | char :: rest => if char = '\uFEFF' then rest else char :: rest

end WinrtLint.Text
