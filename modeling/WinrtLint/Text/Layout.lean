import WinrtLint.Text.Digit

/-!
# Layouts

A layout says how a text is set into a field: how wide the field is, where the
text stands in it, what fills the rest, and how much of the text is kept.  It
is spelled in this order: an alignment, perhaps behind the character that
fills; a zero, which then fills; the width; a point and the length kept; and
the letter `s`.  Each part may be left out.
-/

namespace WinrtLint.Text

/-- Where a text stands in its field. -/
inductive Alignment where
  | left
  | right
  | centre
  deriving DecidableEq, Repr

/-- How a text is set into a field. -/
structure Layout where
  alignment : Alignment := .left
  filler : Char := ' '
  /-- The least width of the field. -/
  width : Nat := 0
  /-- The greatest length of the text. -/
  kept : Option Nat := none
  deriving DecidableEq, Repr

/-- The greatest number that a layout or a field may hold. -/
def greatestNumber : Nat :=
  0x7FFFFFFFFFFFFFFF

/--
The decimal number at the front of a text, its digits before having the value
`sofar`, and the rest.  There is none where it grows too great.
-/
def takeNumberFrom? (sofar : Nat) : List Char → Option (Nat × List Char)
  | [] => some (sofar, [])
  | char :: rest =>
      match decimalValue? char with
      | none => some (sofar, char :: rest)
      | some value =>
          if greatestNumber < 10 * sofar + value then none
          else takeNumberFrom? (10 * sofar + value) rest

namespace Layout

/-- The alignment that a character stands for. -/
def alignment? : Char → Option Alignment
  | '<' => some .left
  | '>' => some .right
  | '^' => some .centre
  | _ => none

/-- A character that stands for an alignment, be it one of numbers alone. -/
def aligns (char : Char) : Bool :=
  (alignment? char).isSome || char = '='

/-- The alignment and the filler at the front of a spelling, if both are given, and the rest. -/
def takeAlignment? : List Char → Option (Layout × Bool × List Char)
  | first :: second :: rest =>
      if aligns second then
        (alignment? second).map fun alignment => ({ alignment, filler := first }, true, rest)
      else if aligns first then
        (alignment? first).map fun alignment => ({ alignment }, false, second :: rest)
      else some ({}, false, first :: second :: rest)
  | [first] =>
      if aligns first then (alignment? first).map fun alignment => ({ alignment }, false, [])
      else some ({}, false, [first])
  | [] => some ({}, false, [])

/-- A zero in front of the width fills the field unless a filler was given. -/
def takeZero (layout : Layout) (filled : Bool) : List Char → Layout × List Char
  | '0' :: rest => if filled then (layout, '0' :: rest) else ({ layout with filler := '0' }, rest)
  | text => (layout, text)

/-- The length kept, behind a point, and the rest. -/
def takeKept? (layout : Layout) : List Char → Option (Layout × List Char)
  | '.' :: text => do
      let (kept, rest) ← takeNumberFrom? 0 text
      if rest.length = text.length then none
      else some ({ layout with kept := some kept }, rest)
  | text => some (layout, text)

/-- The layout that a text spells. -/
def ofChars? (text : List Char) : Option Layout := do
  let (layout, filled, rest) ← takeAlignment? text
  let (layout, rest) := layout.takeZero filled rest
  let (width, rest) ← takeNumberFrom? 0 rest
  let (layout, rest) ← { layout with width }.takeKept? rest
  if rest = [] || rest = ['s'] then some layout else none

/-- A text set into its field. -/
def apply (layout : Layout) (text : List Char) : List Char :=
  let kept :=
    match layout.kept with
    | some length => text.take length
    | none => text
  let room := layout.width - kept.length
  let before :=
    match layout.alignment with
    | .left => 0
    | .right => room
    | .centre => room / 2
  List.replicate before layout.filler ++ kept ++ List.replicate (room - before) layout.filler

end Layout

end WinrtLint.Text
