import WinrtLint.Bytes
import WinrtLint.Source.Tree
import WinrtLint.Text.Utf8

/-!
# Trees as tables of rows

A parser hands over a tree as a table: one row for each node, with the number
of the row above it and the span of source bytes that it covers.  The table is
listed in pre-order, so a node's number is its place in the pre-order walk.
-/

namespace WinrtLint.Source

/-- One node of a tree in a table. -/
structure Row where
  /-- The row of the parent; the root has none. -/
  parent : Option Nat
  /-- The grammar's name for the kind of the node. -/
  kind : String
  /-- The grammar's name for the field of the parent in which the node stands. -/
  field : Option String
  /-- First byte covered. -/
  start : Nat
  /-- First byte no longer covered. -/
  stop : Nat
  isNamed : Bool
  isMissing : Bool
  deriving DecidableEq, Repr

/-- The point behind one more byte: a line feed opens a line. -/
def Point.after (point : Point) (byte : UInt8) : Point :=
  if byte = 10 then ⟨point.line + 1, 0⟩ else ⟨point.line, point.column + 1⟩

/-- The points in front of each byte and behind the last one. -/
def pointsOf (source : Bytes) : Array Point :=
  (source.foldl
    (fun (sofar, point) byte => (sofar.push (point.after byte), point.after byte))
    (#[⟨0, 0⟩], (⟨0, 0⟩ : Point))).1

/-- The point at an offset; past the end the last line goes on, a column for each byte. -/
def pointAt (points : Array Point) (offset : Nat) : Point :=
  match points[offset]? with
  | some point => point
  | none =>
      let last := points.back?.getD ⟨0, 0⟩
      ⟨last.line, last.column + (offset + 1 - points.size)⟩

/-- The label of a row's node over a source with the given points. -/
def Row.label (source : Bytes) (points : Array Point) (row : Row) : Label where
  kind := Kind.ofName row.kind
  field := row.field.map Field.ofName
  text := .mk fun _ => Text.Utf8.decodeIgnoring (source.extract row.start row.stop).toList
  start := pointAt points row.start
  stop := pointAt points row.stop
  isNamed := row.isNamed
  isMissing := row.isMissing

/--
Put a node over those of the waiting trees that name its row as their parent.
The others go on waiting, each with the number of its parent's row.
-/
def assembleRow
    (index : Nat)
    (parent : Option Nat)
    (label : Label)
    (waiting : List (Option Nat × Tree)) :
    List (Option Nat × Tree) :=
  let (mine, others) := waiting.partition fun entry => entry.1 = some index
  (parent, .node label (mine.map (·.2))) :: others

/-- The trees of the rows from an index on whose parents stand before it. -/
def assembleFrom (label : Row → Label) (index : Nat) :
    List Row → List (Option Nat × Tree)
  | [] => []
  | row :: rest =>
      assembleRow index row.parent (label row) (assembleFrom label (index + 1) rest)

/-- The tree of a table over its source; a table without rows has none. -/
def Tree.ofRows? (source : Bytes) (rows : List Row) : Option Tree :=
  let points := pointsOf source
  match assembleFrom (Row.label source points) 0 rows with
  | [] => none
  | root :: _ => some root.2

/-- The rows that name a row as their parent. -/
def childRows (parents : List (Option Nat)) (index : Nat) : List Nat :=
  (List.range parents.length).filter fun child => parents[child]? = some (some index)

/--
Walk a table with an explicit stack: take the topmost row, and put its
children on the stack, the first of them on top.  The walk stops after the
given count of steps.
-/
def walkRows (parents : List (Option Nat)) : Nat → List Nat → List Nat
  | 0, _ => []
  | _ + 1, [] => []
  | steps + 1, index :: stack =>
      index :: walkRows parents steps (childRows parents index ++ stack)

/-- The walk from one row; it takes no more steps than the table has rows. -/
def walkFrom (parents : List (Option Nat)) (index : Nat) : List Nat :=
  walkRows parents parents.length [index]

end WinrtLint.Source
