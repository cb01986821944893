import WinrtLint.Archive.Root

/-!
# The tables of the metadata

The table stream holds up to sixty-four tables back to back, in the order of
their numbers.  The first seven are read; of the others only the counts of
rows matter, because they decide how wide an index has to be.
-/

namespace WinrtLint.Archive

/-- The tables whose rows are read. -/
inductive Table where
  | moduleTable
  | typeRef
  | typeDef
  | fieldPtr
  | field
  | methodPtr
  | methodDef
  deriving DecidableEq, Repr

/-- An index that can refer to one of several tables, told apart by a tag. -/
structure CodedIndex where
  tagBits : Nat
  /-- The numbers of the tables, in the order of their tags. -/
  targets : List Nat
  deriving DecidableEq, Repr

/-- The kinds of columns. -/
inductive Column where
  /-- A number of fixed width. -/
  | fixed (bytes : Nat)
  /-- An offset in a heap, wide if the given bit of the heap sizes is set. -/
  | heap (wideBit : Nat)
  /-- A row of a table, or of its pointer table if that one has rows. -/
  | index (table : Nat) (pointers : Option Nat)
  /-- A row of one of several tables. -/
  | coded (scheme : CodedIndex)
  deriving DecidableEq, Repr

namespace CodedIndex

/-- A type definition, type reference or type specification. -/
def typeDefOrRef : CodedIndex :=
  ⟨2, [0x02, 0x01, 0x1B]⟩

/-- What a type reference is resolved in. -/
def resolutionScope : CodedIndex :=
  ⟨2, [0x00, 0x1A, 0x23, 0x01]⟩

/-- The table and the row to which a value refers. -/
def decode (scheme : CodedIndex) (value : Nat) :
    Except FormatError (Nat × Nat) :=
  let tag := value % (1 <<< scheme.tagBits)
  match scheme.targets[tag]? with
  | some table => .ok (table, value >>> scheme.tagBits)
  | none => .error (.tagOutside tag)

/-- The value that refers to a row of the table with a tag. -/
def encode (scheme : CodedIndex) (tag row : Nat) : Nat :=
  row <<< scheme.tagBits + tag

end CodedIndex

namespace Table

/-- The tables in the order of their numbers. -/
def all : List Table :=
  [.moduleTable, .typeRef, .typeDef, .fieldPtr, .field, .methodPtr, .methodDef]

/-- The number of a table. -/
def number : Table → Nat
  | .moduleTable => 0
  | .typeRef => 1
  | .typeDef => 2
  | .fieldPtr => 3
  | .field => 4
  | .methodPtr => 5
  | .methodDef => 6

/-- An offset in the heap of strings. -/
def string : Column :=
  .heap 0

/-- An offset in the heap of unique identifiers. -/
def guid : Column :=
  .heap 1

/-- An offset in the heap of blobs. -/
def blob : Column :=
  .heap 2

/-- The columns of a table. -/
def columns : Table → List Column
  | .moduleTable => [.fixed 2, string, guid, guid, guid]
  | .typeRef => [.coded .resolutionScope, string, string]
  | .typeDef =>
      [.fixed 4, string, string, .coded .typeDefOrRef, .index 0x04 (some 0x03),
        .index 0x06 (some 0x05)]
  | .fieldPtr => [.index 0x04 none]
  | .field => [.fixed 2, string, blob]
  | .methodPtr => [.index 0x06 none]
  | .methodDef =>
      [.fixed 4, .fixed 2, .fixed 2, string, blob, .index 0x08 (some 0x07)]

end Table

/-- The values of a row, in the order of its columns. -/
abbrev Row : Type :=
  List Nat

/-- The value of a row in a column. -/
def Row.cell (row : Row) (column : Nat) : Nat :=
  row.getD column 0

/-- How many bytes columns of the given widths take together. -/
def totalWidth : List Nat → Nat
  | [] => 0
  | width :: rest => width + totalWidth rest

/-- What the widths of columns depend on. -/
structure Layout where
  /-- Bits that say which heaps need wide offsets. -/
  heapSizes : Nat
  /-- The count of rows of each table. -/
  rowCounts : List Nat
  deriving DecidableEq, Repr

namespace Layout

/-- How many rows a table has. -/
def count (layout : Layout) (table : Nat) : Nat :=
  layout.rowCounts.getD table 0

/-- How many bytes a column takes: two, unless its values need four. -/
def width (layout : Layout) : Column → Nat
  | .fixed bytes => bytes
  | .heap wideBit => if layout.heapSizes.testBit wideBit then 4 else 2
  | .index table pointers =>
      let target :=
        match pointers with
        | some pointer => if layout.count pointer = 0 then table else pointer
        | none => table
      if layout.count target < 0x10000 then 2 else 4
  | .coded scheme =>
      let largest := (scheme.targets.map layout.count).foldl max 0
      if largest < 1 <<< (16 - scheme.tagBits) then 2 else 4

/-- The widths of a table's columns. -/
def widths (layout : Layout) (table : Table) : List Nat :=
  table.columns.map layout.width

/-- How many bytes a row of a table takes. -/
def rowSize (layout : Layout) (table : Table) : Nat :=
  totalWidth (layout.widths table)

end Layout

/-- The tables of some metadata. -/
structure Tables where
  layout : Layout
  /-- The rows of the tables that are read, in the order of their numbers. -/
  rows : List (Array Row)
  deriving DecidableEq, Repr

namespace Tables

/-- Read words of the given widths, one after another. -/
def readCells (stream : Bytes) : Nat → List Nat → Row
  | _, [] => []
  | offset, width :: rest =>
      stream.word offset width :: readCells stream (offset + width) rest

/-- Read the given count of rows, the first of them at an offset. -/
def readRows (stream : Bytes) (widths : List Nat) (offset count : Nat) :
    Array Row :=
  Array.ofFn fun (index : Fin count) =>
    readCells stream (offset + index * totalWidth widths) widths

/--
Read the counts of rows of the tables from a number on, and the offset behind
them.  Only the tables whose bit is set have a count.
-/
def readCounts (stream : Bytes) (valid : Nat) :
    Nat → Nat → Nat → Except FormatError (List Nat × Nat)
  | 0, _, offset => .ok ([], offset)
  | left + 1, table, offset =>
      if valid.testBit table then do
        Root.need stream offset 4
        let (counts, stop) ← readCounts stream valid left (table + 1) (offset + 4)
        return (stream.word offset 4 :: counts, stop)
      else do
        let (counts, stop) ← readCounts stream valid left (table + 1) offset
        return (0 :: counts, stop)

/-- Read tables that stand back to back, the first of them at an offset. -/
def readTables (stream : Bytes) (layout : Layout) :
    Nat → List Table → Except FormatError (List (Array Row))
  | _, [] => .ok []
  | offset, table :: rest => do
      let count := layout.count table.number
      let size := count * layout.rowSize table
      if count ≠ 0 && !stream.holds offset size then
        throw (.tablePastEnd table.number)
      let rows := readRows stream (layout.widths table) offset count
      let others ← readTables stream layout (offset + size) rest
      return rows :: others

/-- How many tables there can be. -/
def tableLimit : Nat :=
  64

/-- How many bytes stand in front of the counts of rows. -/
def headerSize : Nat :=
  24

/-- The bit of the heap sizes that announces four more bytes behind the counts. -/
def extraDataBit : Nat :=
  6

/-- Read a table stream. -/
def parse (stream : Bytes) : Except FormatError Tables := do
  Root.need stream 0 headerSize
  let heapSizes := stream.word 6 1
  let valid := stream.word 8 8
  let (rowCounts, stop) ← readCounts stream valid tableLimit 0 headerSize
  let layout : Layout := ⟨heapSizes, rowCounts⟩
  let start := if heapSizes.testBit extraDataBit then stop + 4 else stop
  let rows ← readTables stream layout start Table.all
  return ⟨layout, rows⟩

/-- The rows of a table. -/
def rowsOf (tables : Tables) (table : Table) : Array Row :=
  tables.rows.getD table.number #[]

end Tables

end WinrtLint.Archive
