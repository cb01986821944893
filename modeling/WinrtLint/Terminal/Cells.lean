import WinrtLint.Terminal.CellWidth

/-!
# The cells of a text

A text takes the cells of its characters, with two exceptions.  A joiner shows
the next character within the one in front of it, where it takes no cells of
its own.  A selector asks for the character in front as a picture, which may
take a cell more.

What is shown as one glyph is a grapheme: a character with those that take no
cells behind it, and with those that are joined to it.  A text is divided only
between graphemes.
-/

namespace WinrtLint.Terminal

/-- The character that shows the next one within the one in front. -/
def joiner : Char :=
  '\u200D'

/-- The character that asks for the one in front as a picture. -/
def selector : Char :=
  '\uFE0F'

/-- How many cells more a character takes as a picture, if there is one. -/
def growth (last : Option Char) : Nat :=
  if last.any growsAsPicture then 1 else 0

/--
The cells of a text behind one that takes `sofar` cells and whose last
character that takes cells is `last`.
-/
def cellsFrom (sofar : Nat) (last : Option Char) : List Char → Nat
  | [] => sofar
  | char :: rest =>
      if char = joiner then
        match rest with
        | [] => sofar
        | _ :: rest => cellsFrom sofar last rest
      else if char = selector then cellsFrom (sofar + growth last) none rest
      else
        match cellWidth char with
        | 0 => cellsFrom sofar last rest
        | width => cellsFrom (sofar + width) (some char) rest

/-- How many cells a text takes. -/
def cellsOf (text : List Char) : Nat :=
  cellsFrom 0 none text

/-- What is shown as one glyph. -/
structure Grapheme where
  /-- Its characters, last first. -/
  backward : List Char
  /-- How many cells it takes. -/
  cells : Nat
  deriving DecidableEq, Repr

namespace Grapheme

/-- The characters of a grapheme. -/
def chars (grapheme : Grapheme) : List Char :=
  grapheme.backward.reverse

/-- A grapheme with one more character, which may make it wider. -/
def extend (grapheme : Grapheme) (char : Char) (more : Nat) : Grapheme :=
  ⟨char :: grapheme.backward, grapheme.cells + more⟩

/--
The graphemes of a text behind those in `sofar`, last first.  The last
character that takes cells and has not grown is `last`.
-/
def splitFrom (sofar : List Grapheme) (last : Option Char) :
    List Char → List Grapheme
  | [] => sofar.reverse
  | char :: rest =>
      let width := cellWidth char
      match sofar with
      | [] => splitFrom [⟨[char], width⟩] (if width = 0 then last else some char) rest
      | grapheme :: before =>
          if char = joiner then
            match rest with
            | [] => (grapheme.extend char 0 :: before).reverse
            | next :: rest =>
                splitFrom ((grapheme.extend char 0).extend next 0 :: before) last rest
          else if char = selector then
            splitFrom (grapheme.extend char (growth last) :: before)
              (if growth last = 0 then last else none) rest
          else if width = 0 then splitFrom (grapheme.extend char 0 :: before) last rest
          else splitFrom (⟨[char], width⟩ :: grapheme :: before) (some char) rest

/-- The graphemes of a text. -/
def split (text : List Char) : List Grapheme :=
  splitFrom [] none text

/-- The part of graphemes that a number of cells has room for; half a glyph becomes a blank. -/
def crop (room : Nat) : List Grapheme → List Char
  | [] => []
  | grapheme :: rest =>
      if grapheme.cells ≤ room then grapheme.chars ++ crop (room - grapheme.cells) rest
      else if room = 0 then []
      else [' ']

/--
Divide graphemes into pieces that are not wider than a line.  The piece being
made has the characters `piece`, last first, and takes `used` cells; a last
piece without cells is none.
-/
def chopFrom (width used : Nat) (piece : List Char) :
    List Grapheme → List (List Char)
  | [] => if used = 0 then [] else [piece.reverse]
  | grapheme :: rest =>
      if width < used + grapheme.cells then
        piece.reverse :: chopFrom width grapheme.cells grapheme.backward rest
      else chopFrom width (used + grapheme.cells) (grapheme.backward ++ piece) rest

end Grapheme

/-- The part of a text that a number of cells has room for. -/
def crop (room : Nat) (text : List Char) : List Char :=
  if room = 0 then [] else Grapheme.crop room (Grapheme.split text)

/-- The pieces of a word that are not wider than a line. -/
def chop (width : Nat) (word : List Char) : List (List Char) :=
  Grapheme.chopFrom width 0 [] (Grapheme.split word)

/-- The distance between the stops of tabs. -/
def tabStop : Nat :=
  8

/--
Put the parts of a line between its tabs together, the first of them at a cell.
A tab becomes a blank, and then blanks up to the next stop.
-/
def joinAtStops (cell : Nat) : List (List Char) → List Char
  | [] => []
  | [part] => part
  | part :: rest =>
      let shown := part ++ [' ']
      let behind := cell + cellsOf shown
      let room := (tabStop - behind % tabStop) % tabStop
      shown ++ List.replicate room ' ' ++ joinAtStops (behind + room) rest

/-- A line whose tabs are replaced by blanks. -/
def expandTabs (line : List Char) : List Char :=
  joinAtStops 0 (Text.pieces '\t' line)

end WinrtLint.Terminal
