import WinrtLint.Terminal.Wrap

/-!
# Tables

A table has a title, a header and rows.  Every column is as wide as its widest
cell, with a blank on either side of it.  If that is more than a line of output
has room for, the widest columns give way, down to the next widest ones and
together with those.  What does not fit in spite of that is broken into several
lines or cut off.
-/

namespace WinrtLint.Terminal

/-- Findings or counts in rows under a title. -/
structure Table where
  title : String
  header : List String
  rows : List (List String)
  deriving DecidableEq, Repr

namespace Table

/-- A quotient rounded to the nearest number; of two that are equally near the even one. -/
def roundedQuotient (dividend divisor : Nat) : Nat :=
  let quotient := dividend / divisor
  let twice := 2 * (dividend % divisor)
  if twice < divisor || (twice = divisor && quotient % 2 = 0) then quotient else quotient + 1

/--
Take an excess away from the columns of one width, as evenly as whole numbers
go and not more than a limit from each; `count` of them are left.
-/
def narrow (width limit : Nat) : Nat → Nat → List Nat → List Nat
  | _, _, [] => []
  | excess, count, other :: rest =>
      if other = width then
        let share := min limit (roundedQuotient excess count)
        (other - share) :: narrow width limit (excess - share) (count - 1) rest
      else other :: narrow width limit excess count rest

/-- How many cells columns of the given widths take together. -/
def total (widths : List Nat) : Nat :=
  widths.foldl (· + ·) 0

/--
Narrow the widest columns, step by step, until they have room together.  The
first argument bounds the steps; each one but the last makes the widest columns
as narrow as the next ones, so there are no more of them than columns.
-/
def collapse (room : Nat) : Nat → List Nat → List Nat
  | 0, widths => widths
  | steps + 1, widths =>
      if total widths ≤ room then widths
      else
        let widest := widths.foldl max 0
        let second := (widths.filter (· ≠ widest)).foldl max 0
        let excess := total widths - room
        collapse room steps
          (narrow widest (min excess (widest - second)) excess (widths.count widest) widths)

/-- How many cells a column takes beside the texts of its cells. -/
def padding : Nat :=
  2

/-- How many cells the columns of a table have room for between its lines. -/
def roomFor (columns : Nat) : Nat :=
  outputWidth - (columns + 1)

/-- The widths of the texts in the columns. -/
def widths (table : Table) : List Nat :=
  let natural := table.rows.foldl (fun sofar row =>
    sofar.zipWith max (row.map fun cell => naturalWidth cell.toList))
    (table.header.map fun cell => naturalWidth cell.toList)
  let room := roomFor natural.length
  let padded := natural.map fun width => min (width + padding) room
  (collapse room (padded.length + 1) padded).map (· - padding)

/-- The lines of a row, each with its part of every cell. -/
def rowLines (widths : List Nat) (row : List String) : List String :=
  let columns := widths.zipWith (fun width cell => wrap width .cut cell.toList) row
  let height := (columns.map List.length).foldl max 0
  (List.range height).map fun index =>
    Text.joinStrings " | " (columns.map fun lines =>
      String.ofList (Text.trim (lines[index]?.getD [])))

/-- The lines of a table: its title, its header and its rows. -/
def lines (table : Table) : List String :=
  table.title :: (table.header :: table.rows).flatMap (rowLines table.widths)

end Table

end WinrtLint.Terminal
