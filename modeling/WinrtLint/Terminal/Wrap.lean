import WinrtLint.Terminal.Cells
import WinrtLint.Text.Lines

/-!
# Lines of limited width

A line that is wider than it may be is broken between words; blanks belong to
the word in front of them.  A word that is wider than a line goes on in the
next one or is cut off.  Before that, tabs are replaced by blanks.
-/

namespace WinrtLint.Terminal

/-- How many cells the widest line of a text takes. -/
def naturalWidth (text : List Char) : Nat :=
  ((Text.lines text).map cellsOf).foldl max 0

/-- What becomes of a word that is wider than a line. -/
inductive Overflow where
  /-- It goes on in the next line. -/
  | fold
  /-- It is cut off, and a mark tells so. -/
  | cut
  deriving DecidableEq, Repr

/-- At most `count` words of a text, each with the blanks behind it. -/
def wordsUpTo : Nat → List Char → List (List Char)
  | 0, _ => []
  | count + 1, text =>
      let inked := text.dropWhile Text.isBlank
      let after := inked.dropWhile fun char => !Text.isBlank char
      if inked.isEmpty then []
      else
        (text.takeWhile Text.isBlank ++ inked.takeWhile (fun char => !Text.isBlank char) ++
          after.takeWhile Text.isBlank) ::
          wordsUpTo count (after.dropWhile Text.isBlank)

/--
The words of a text, each with the blanks behind it and the first one also
with those in front; there are no more of them than characters.
-/
def words (text : List Char) : List (List Char) :=
  wordsUpTo text.length text

/-- Lines being filled with words. -/
structure Filling where
  /-- The lines that are full, last first. -/
  full : List (List Char) := []
  /-- The line being filled. -/
  current : List Char := []
  /-- The cells that the line being filled takes. -/
  used : Nat := 0

namespace Filling

/-- End the line being filled unless nothing has been filled in yet. -/
def breakLine (filling : Filling) : Filling :=
  if filling.full.isEmpty && filling.current.isEmpty then filling
  else { full := filling.current :: filling.full }

/-- Put a text into the line being filled. -/
def put (filling : Filling) (text : List Char) : Filling :=
  { filling with
    current := filling.current ++ text
    used := filling.used + cellsOf text }

/-- Fill in a word. -/
def addWord
    (width : Nat)
    (overflow : Overflow)
    (filling : Filling)
    (word : List Char) :
    Filling :=
  let inked := cellsOf (Text.dropEndWhile Text.isBlank word)
  if filling.used + inked ≤ width then filling.put word
  else if inked ≤ width || overflow = .cut then filling.breakLine.put word
  else (chop width word).foldl (fun filling piece => filling.breakLine.put piece) filling

/-- The lines. -/
def lines (filling : Filling) : List (List Char) :=
  (filling.current :: filling.full).reverse

end Filling

/-- Drop blanks at the end of a line as far as it has more characters than cells. -/
def dropExcess (width : Nat) (line : List Char) : List Char :=
  let blanks := (line.reverse.takeWhile Text.isBlank).length
  line.take (line.length - min blanks (line.length - width))

/-- A line that is still too wide, cut to its width. -/
def trimLine (width : Nat) (overflow : Overflow) (line : List Char) :
    List Char :=
  if cellsOf line ≤ width then line
  else
    match overflow with
    | .fold => crop width line
    | .cut => crop (width - 1) line ++ ['…']

/-- Break a line. -/
def wrapLine (width : Nat) (overflow : Overflow) (line : List Char) :
    List (List Char) :=
  let broken :=
    match words line with
    | [] => [line]
    | words => (words.foldl (Filling.addWord width overflow) {}).lines
  broken.map fun line => trimLine width overflow (dropExcess width line)

/-- The lines of a text. -/
def wrap (width : Nat) (overflow : Overflow) (text : List Char) :
    List (List Char) :=
  (Text.pieces '\n' text).flatMap fun line => wrapLine width overflow (expandTabs line)

/-- How many cells a line of output may take. -/
def outputWidth : Nat :=
  4000

end WinrtLint.Terminal
