/-!
# Blanks and cuts

Text is handled as a list of characters.  This module holds the characters
that count as blank, the trimming of blanks (or of any other class of
characters) at either end, and the cuts of a text at its first or last
occurrence of a character.
-/

namespace WinrtLint.Text

/-- Closed ranges of code points, in increasing order, that count as blank. -/
def blankRanges : List (Nat × Nat) :=
  [(0x09, 0x0D), (0x1C, 0x20), (0x85, 0x85), (0xA0, 0xA0), (0x1680, 0x1680),
    (0x2000, 0x200A), (0x2028, 0x2029), (0x202F, 0x202F), (0x205F, 0x205F),
    (0x3000, 0x3000)]

/-- Whether a code point lies in one of the given closed ranges. -/
def inRanges (ranges : List (Nat × Nat)) (char : Char) : Bool :=
  ranges.any fun range => range.1 ≤ char.toNat && char.toNat ≤ range.2

/-- A character that may separate words: white space in the Unicode sense. -/
def isBlank (char : Char) : Bool :=
  inRanges blankRanges char

/-- Drop the characters of a class from the right end. -/
def dropEndWhile (unwanted : Char → Bool) (text : List Char) : List Char :=
  (text.reverse.dropWhile unwanted).reverse

/-- Drop the characters of a class from both ends. -/
def dropBothWhile (unwanted : Char → Bool) (text : List Char) : List Char :=
  dropEndWhile unwanted (text.dropWhile unwanted)

/-- Drop the blanks at both ends. -/
def trim (text : List Char) : List Char :=
  dropBothWhile isBlank text

/-- Drop the spaces, and no other blanks, at both ends. -/
def trimSpaces (text : List Char) : List Char :=
  dropBothWhile (· = ' ') text

/-- Drop the blanks at both ends of a string. -/
def trimString (text : String) : String :=
  String.ofList (trim text.toList)

/--
Cut at the first occurrence of a character: what stands before it and, if it
occurs, what stands after it.
-/
def cutFirst (mark : Char) : List Char → List Char × Option (List Char)
  | [] => ([], none)
  | char :: rest =>
      if char = mark then ([], some rest)
      else
        let (before, after) := cutFirst mark rest
        (char :: before, after)

/-- Cut at the last occurrence of a character, if it occurs. -/
def cutLast? (mark : Char) : List Char → Option (List Char × List Char)
  | [] => none
  | char :: rest =>
      match cutLast? mark rest with
      | some (before, after) => some (char :: before, after)
      | none => if char = mark then some ([], rest) else none

/-- The non-empty list of pieces between the occurrences of a character. -/
def pieces (mark : Char) : List Char → List (List Char)
  | [] => [[]]
  | char :: rest =>
      if char = mark then [] :: pieces mark rest
      else
        match pieces mark rest with
        | [] => [[char]]
        | piece :: more => (char :: piece) :: more

/-- What is left of a text after a given beginning, if it begins so. -/
def afterStart? : List Char → List Char → Option (List Char)
  | [], text => some text
  | _ :: _, [] => none
  | first :: start, char :: text =>
      if first = char then afterStart? start text else none

/-- What stands before a given ending, if the text ends so. -/
def beforeEnd? (ending text : List Char) : Option (List Char) :=
  (afterStart? ending.reverse text.reverse).map List.reverse

/-- Put a character between the pieces of a list and join them. -/
def joinWith (mark : Char) : List (List Char) → List Char
  | [] => []
  | [piece] => piece
  | piece :: more => piece ++ mark :: joinWith mark more

/-- Join strings with a separator. -/
def joinStrings (separator : String) : List String → String
  | [] => ""
  | piece :: more => more.foldl (fun joined next => joined ++ separator ++ next) piece

theorem foldl_separated (separator front piece : String) (more : List String) :
    more.foldl (fun joined next => joined ++ separator ++ next) (front ++ piece) =
      front ++ more.foldl (fun joined next => joined ++ separator ++ next) piece := by
  induction more generalizing piece with
  | nil => rfl
  | cons next more induction =>
      simp only [List.foldl_cons, String.append_assoc] at induction ⊢
      exact induction (piece ++ (separator ++ next))

theorem joinStrings_cons_cons
    (separator piece next : String)
    (more : List String) :
    joinStrings separator (piece :: next :: more) =
      piece ++ separator ++ joinStrings separator (next :: more) :=
  foldl_separated separator (piece ++ separator) next more

end WinrtLint.Text
