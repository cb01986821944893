import WinrtLint.Proofs.Archive.Builder
import WinrtLint.Proofs.Archive.TableStream

/-!
# Writing the metadata of an archive

The rows of a builder become the table stream, in which every column has a
fixed width, and the table stream and the heaps become the metadata.  As long
as there are few enough rows the widths are those in which the columns are
read, so the tables are read back (`parse_tableStream`), and the metadata that
are read describe what the builder was asked for (`describes_written`).
-/

namespace WinrtLint.Archive

open WinrtLint.Bytes
open WinrtLint.Outcome
open WinrtLint.Text

/-! ## Tables as they are written -/

/-- A table as it is written: its number, the widths of its columns and its rows. -/
structure WrittenTable where
  number : Nat
  widths : List Nat
  rows : List Row
  deriving DecidableEq

namespace Builder

/-- The rows of methods; those that are found through pointers stand backwards. -/
def methodRows (builder : Builder) (pointers : Bool) : List Row :=
  if pointers then builder.methods.reverse else builder.methods

/-- The pointers to the rows of methods, if there are to be any. -/
def pointerRows (builder : Builder) (pointers : Bool) : List Row :=
  if pointers then
    (List.range builder.methods.length).map fun index => [builder.methods.length - index]
  else []

/-- The row of the module. -/
def moduleRow (builder : Builder) : Row :=
  [0, builder.offset moduleName, 1, 0, 0]

/-- The tables that may be written. -/
def tables (builder : Builder) (pointers : Bool) : List WrittenTable :=
  [⟨0x00, [2, 2, 2, 2, 2], [builder.moduleRow]⟩,
    ⟨0x01, [2, 2, 2], builder.typeRefs⟩,
    ⟨0x02, [4, 2, 2, 2, 2, 2], builder.typeDefs⟩,
    ⟨0x05, [2], builder.pointerRows pointers⟩,
    ⟨0x06, [4, 2, 2, 2, 2, 2], builder.methodRows pointers⟩]

/-- The tables that are written: those with rows. -/
def presentTables (builder : Builder) (pointers : Bool) : List WrittenTable :=
  (builder.tables pointers).filter fun table => !table.rows.isEmpty

/-- The mask of the tables that are written. -/
def mask (builder : Builder) (pointers : Bool) : Nat :=
  (builder.presentTables pointers).foldl (fun mask table => mask ||| 2 ^ table.number) 0

/-- The table stream. -/
def tableStream (builder : Builder) (pointers : Bool) : List UInt8 :=
  ofWord 4 0 ++ ofWord 1 2 ++ ofWord 1 0 ++ ofWord 1 0 ++ ofWord 1 1 ++
    ofWord 8 (builder.mask pointers) ++ ofWord 8 0 ++
    (builder.presentTables pointers).flatMap (fun table => ofWord 4 table.rows.length) ++
    (builder.presentTables pointers).flatMap fun table =>
      table.rows.flatMap (Tables.encodeRow table.widths)

/-! ## Tables as they are read -/

/-- The counts of rows of the tables that are written. -/
def layout (builder : Builder) (pointers : Bool) : Layout where
  heapSizes := 0
  rowCounts :=
    [1, builder.typeRefs.length, builder.typeDefs.length, 0, 0,
      (builder.pointerRows pointers).length, (builder.methodRows pointers).length] ++
      List.replicate 57 0

/-- The tables that are written, as they are to be read. -/
def writtenTables (builder : Builder) (pointers : Bool) : Tables where
  layout := builder.layout pointers
  rows :=
    [#[builder.moduleRow], builder.typeRefs.toArray, builder.typeDefs.toArray, #[], #[],
      (builder.pointerRows pointers).toArray, (builder.methodRows pointers).toArray]

/-- Whether there are few enough rows for numbers of two bytes, with a tag of two bits for
types. -/
structure Few (builder : Builder) : Prop where
  typeRefs : builder.typeRefs.length < 2 ^ 14
  typeDefs : builder.typeDefs.length < 2 ^ 14
  methods : builder.methods.length < 2 ^ 16

variable {builder : Builder} {pointers : Bool}

theorem length_methodRows (builder : Builder) (pointers : Bool) :
    (builder.methodRows pointers).length = builder.methods.length := by
  cases pointers <;> simp [methodRows]

theorem length_pointerRows (builder : Builder) (pointers : Bool) :
    (builder.pointerRows pointers).length = if pointers then builder.methods.length else 0 := by
  cases pointers <;> simp [pointerRows]

/-- The bits of a mask are those of the numbers that were put in. -/
theorem testBit_foldl_or {tables : List WrittenTable} {start number : Nat} :
    (tables.foldl (fun mask table => mask ||| 2 ^ table.number) start).testBit number =
      (start.testBit number || decide (number ∈ tables.map (·.number))) := by
  induction tables generalizing start with
  | nil => simp
  | cons table rest induction =>
      rw [List.foldl_cons, induction, Nat.testBit_or, Nat.testBit_two_pow, Bool.or_assoc]
      congr 1
      simp only [List.map_cons, List.mem_cons, Bool.decide_or, eq_comm]

theorem testBit_mask {number : Nat} :
    (builder.mask pointers).testBit number =
      decide (number ∈ (builder.presentTables pointers).map (·.number)) := by
  rw [mask, testBit_foldl_or, Nat.zero_testBit, Bool.false_or]

/-- Of the numbers of all tables, those of the tables that are written are found in order. -/
theorem present_mask (builder : Builder) (pointers : Bool) :
    Tables.present (builder.mask pointers) 0 Tables.tableLimit =
      (builder.presentTables pointers).map (·.number) := by
  -- Which tables have rows is all that matters, and there are few ways for that.
  have order : ∀ first second third fourth : Bool,
      let numbers := ([(0x00, true), (0x01, first), (0x02, second), (0x05, third),
        (0x06, fourth)].filter (·.2)).map (·.1)
      (List.range' 0 Tables.tableLimit).filter (fun number => decide (number ∈ numbers)) =
        numbers := by
    decide
  have bits : (builder.mask pointers).testBit = fun number =>
      decide (number ∈ (builder.presentTables pointers).map (·.number)) :=
    funext fun _ => testBit_mask
  have numbers : (builder.presentTables pointers).map (·.number) =
      (((builder.tables pointers).map fun table =>
        (table.number, !table.rows.isEmpty)).filter (·.2)).map (·.1) := by
    rw [List.filter_map, List.map_map]
    rfl
  rw [Tables.present, bits, numbers]
  exact order _ _ _ _

theorem mem_presentTables {table : WrittenTable} :
    table ∈ builder.presentTables pointers ↔
      table ∈ builder.tables pointers ∧ table.rows ≠ [] := by
  simp [presentTables, List.mem_filter]

theorem mask_lt (builder : Builder) (pointers : Bool) :
    builder.mask pointers < 2 ^ 64 := by
  apply Nat.lt_pow_two_of_testBit
  intro number beyond
  rw [testBit_mask, decide_eq_false_iff_not, ← present_mask, Tables.present, List.mem_filter,
    List.mem_range'_1, Tables.tableLimit]
  omega

theorem count_number
    {table : WrittenTable}
    (member : table ∈ builder.tables pointers) :
    (builder.layout pointers).count table.number = table.rows.length := by
  simp only [tables, List.mem_cons, List.not_mem_nil, or_false] at member
  rcases member with rfl | rfl | rfl | rfl | rfl <;> rfl

/-- A table without a bit in the mask has no rows. -/
theorem count_absent
    {number : Nat}
    (absent : (builder.mask pointers).testBit number = false) :
    (builder.layout pointers).count number = 0 := by
  have empty : ∀ table ∈ builder.tables pointers, table.number = number →
      (builder.layout pointers).count number = 0 := by
    rintro table member rfl
    rw [testBit_mask, decide_eq_false_iff_not] at absent
    rw [count_number member, List.length_eq_zero_iff]
    exact Classical.byContradiction fun rows =>
      absent (List.mem_map_of_mem (mem_presentTables.2 ⟨member, rows⟩))
  simp only [tables, List.forall_mem_cons] at empty
  match number with
  | 0 => exact empty.1 rfl
  | 1 => exact empty.2.1 rfl
  | 2 => exact empty.2.2.1 rfl
  | 3 => rfl
  | 4 => rfl
  | 5 => exact empty.2.2.2.1 rfl
  | 6 => exact empty.2.2.2.2.1 rfl
  | number + 7 =>
      have tail : (builder.layout pointers).count (number + 7) =
          (List.replicate 57 0).getD number 0 := rfl
      rw [tail, List.getD_eq_getElem?_getD, List.getElem?_replicate]
      split <;> rfl

/-! ## The table stream -/

/-- With few rows the columns are read in the widths in which they are written. -/
theorem prescribed_eq (few : builder.Few) (pointers : Bool) :
    (builder.layout pointers).prescribed .moduleTable = [2, 2, 2, 2, 2] ∧
      (builder.layout pointers).prescribed .typeRef = [2, 2, 2] ∧
      (builder.layout pointers).prescribed .typeDef = [4, 2, 2, 2, 2, 2] ∧
      (builder.layout pointers).prescribed .methodPtr = [2] ∧
      (builder.layout pointers).prescribed .methodDef = [4, 2, 2, 2, 2, 2] := by
  have references : (builder.layout pointers).count 0x01 < 2 ^ 14 := few.typeRefs
  have definitions : (builder.layout pointers).count 0x02 < 2 ^ 14 := few.typeDefs
  have pointed : (builder.layout pointers).count 0x05 < 2 ^ 16 := by
    have same : (builder.layout pointers).count 0x05 = (builder.pointerRows pointers).length := rfl
    have small := few.methods
    rw [same, length_pointerRows]
    split <;> omega
  have methods : (builder.layout pointers).count 0x06 < 2 ^ 16 := by
    have same : (builder.layout pointers).count 0x06 = (builder.methodRows pointers).length := rfl
    rw [same, length_methodRows]
    exact few.methods
  have offsets : ∀ flag, (builder.layout pointers).offsetWidth flag = 2 := by
    intro flag
    simp [Layout.offsetWidth, layout]
  have one : (builder.layout pointers).count 0x00 < 2 ^ 14 := show 1 < 2 ^ 14 by decide
  have none : ∀ table, (builder.layout pointers).count table = 0 →
      (builder.layout pointers).count table < 2 ^ 14 := fun table same => by omega
  have scope : (builder.layout pointers).taggedWidth [0x00, 0x1A, 0x23, 0x01] = 2 := by
    refine if_pos ?_
    simp only [List.mem_cons, List.not_mem_nil, or_false]
    rintro table (rfl | rfl | rfl | rfl)
    exacts [one, none 0x1A rfl, none 0x23 rfl, references]
  have base : (builder.layout pointers).taggedWidth [0x02, 0x01, 0x1B] = 2 := by
    refine if_pos ?_
    simp only [List.mem_cons, List.not_mem_nil, or_false]
    rintro table (rfl | rfl | rfl)
    exacts [definitions, references, none 0x1B rfl]
  have fields : (builder.layout pointers).listWidth 0x04 0x03 = 2 := rfl
  have parameters : (builder.layout pointers).listWidth 0x08 0x07 = 2 := rfl
  have methodWidth : (builder.layout pointers).rowWidth 0x06 = 2 := if_pos methods
  have list : (builder.layout pointers).listWidth 0x06 0x05 = 2 := by
    rw [Layout.listWidth, methodWidth]
    split
    · exact if_pos pointed
    · rfl
  simp only [Layout.prescribed, offsets, scope, base, fields, parameters, methodWidth, list,
    and_self]

/-- Whether the numbers in all rows fit the widths in which they are written. -/
def RowsFit (builder : Builder) (pointers : Bool) : Prop :=
  ∀ table ∈ builder.tables pointers, ∀ row ∈ table.rows, Tables.RowFits table.widths row

instance (builder : Builder) (pointers : Bool) :
    Decidable (builder.RowsFit pointers) :=
  inferInstanceAs (Decidable (∀ table ∈ builder.tables pointers, ∀ row ∈ table.rows,
    Tables.RowFits table.widths row))

theorem tableFits_toArray
    {layout : Layout}
    {table : Table}
    {widths : List Nat}
    {rows : List Row}
    (prescribed : layout.prescribed table = widths)
    (counted : layout.count table.number = rows.length)
    (fit : ∀ row ∈ rows, Tables.RowFits widths row) :
    Tables.TableFits layout table rows.toArray where
  size_eq := counted.symm
  rows_fit := by
    rw [prescribed]
    exact fun row member => fit row (List.mem_toArray.1 member)

/-- Few rows whose numbers fit are tables that can be written and read back. -/
theorem encodable_writtenTables
    (few : builder.Few)
    (fit : builder.RowsFit pointers) :
    (builder.writtenTables pointers).Encodable (builder.mask pointers) := by
  rcases prescribed_eq few pointers with ⟨ofModule, ofRefs, ofDefs, ofPointers, ofMethods⟩
  simp only [RowsFit, tables, List.forall_mem_cons] at fit
  rcases fit with ⟨moduleFits, refsFit, defsFit, pointersFit, methodsFit, -⟩
  have none : ∀ table : Table, (builder.layout pointers).count table.number = 0 →
      Tables.TableFits (builder.layout pointers) table #[] := fun _ same => ⟨same.symm, by simp⟩
  have references := few.typeRefs
  have definitions := few.typeDefs
  have methods := few.methods
  have pointed := length_pointerRows builder pointers
  exact {
    heapSizes_lt := show 0 < 2 ^ 8 by decide
    valid_lt := builder.mask_lt pointers
    length_rowCounts := rfl
    count_lt := by
      simp only [writtenTables, layout, List.forall_mem_append, List.forall_mem_cons,
        List.forall_mem_replicate, length_methodRows, pointed]
      split <;> simp <;> omega
    count_absent := fun table _ => count_absent
    rows_fit :=
      .cons (@tableFits_toArray _ _ _ [builder.moduleRow] ofModule rfl
        (by simpa using moduleFits)) <|
      .cons (tableFits_toArray ofRefs rfl refsFit) <|
      .cons (tableFits_toArray ofDefs rfl defsFit) <|
      .cons (none .fieldPtr rfl) <|
      .cons (none .field rfl) <|
      .cons (tableFits_toArray ofPointers rfl pointersFit) <|
      .cons (tableFits_toArray ofMethods rfl methodsFit) .nil }

/-- The parts of the table stream that reading skips. -/
def frame (trailing : List UInt8) : Tables.Frame where
  reserved := 0
  majorVersion := 2
  minorVersion := 0
  padding := 1
  sorted := 0
  extra := 0
  trailing := trailing

theorem flatMap_counts (builder : Builder) (pointers : Bool) :
    (builder.presentTables pointers).flatMap (fun table => ofWord 4 table.rows.length) =
      Tables.encodeCounts (builder.layout pointers)
        (Tables.present (builder.mask pointers) 0 Tables.tableLimit) := by
  rw [present_mask, Tables.encodeCounts, List.flatMap_map]
  refine List.flatMap_congr fun table member => ?_
  rw [count_number (mem_presentTables.1 member).1]

/-- The rows that are written are those of all tables that are read; tables without rows give
no bytes. -/
theorem flatMap_rows (few : builder.Few) (pointers : Bool) :
    ((builder.presentTables pointers).flatMap fun table =>
      table.rows.flatMap (Tables.encodeRow table.widths)) =
      (builder.writtenTables pointers).encodeRows := by
  have all : ∀ tables : List WrittenTable,
      ((tables.filter fun table => !table.rows.isEmpty).flatMap fun table =>
        table.rows.flatMap (Tables.encodeRow table.widths)) =
      tables.flatMap fun table => table.rows.flatMap (Tables.encodeRow table.widths) := by
    intro tables
    induction tables with
    | nil => rfl
    | cons table rest induction =>
        cases rows : table.rows with
        | nil => simp [rows, induction]
        | cons row others => simp [rows, induction]
  rcases prescribed_eq few pointers with ⟨ofModule, ofRefs, ofDefs, ofPointers, ofMethods⟩
  rw [presentTables, all]
  simp [tables, Tables.encodeRows, writtenTables, Table.all, Tables.encodeEach,
    Tables.encodeTable, ofModule, ofRefs, ofDefs, ofPointers, ofMethods]

theorem tableStream_append
    (few : builder.Few)
    (pointers : Bool)
    (trailing : List UInt8) :
    builder.tableStream pointers ++ trailing =
      (builder.writtenTables pointers).encode (builder.mask pointers) (frame trailing) := by
  rw [tableStream, flatMap_counts, flatMap_rows few]
  simp [Tables.encode, Tables.encodeHeader, Tables.encodeExtra, frame, writtenTables, layout]

/-- The tables are read back from the table stream, whatever follows it. -/
theorem parse_tableStream
    (few : builder.Few)
    (fit : builder.RowsFit pointers)
    (trailing : List UInt8) :
    Tables.parse (builder.tableStream pointers ++ trailing).toArray =
      .ok (builder.writtenTables pointers) := by
  rw [tableStream_append few]
  exact Tables.parse_encode (encodable_writtenTables few fit) (frame trailing)

/-! ## Metadata -/

/-- The streams of the metadata. -/
def streams (builder : Builder) (pointers : Bool) :
    List (String × List UInt8) :=
  [("#~", builder.tableStream pointers), ("#Strings", builder.heap),
    ("#GUID", List.replicate 16 0x11), ("#Blob", [0])]

/-- The version of the metadata. -/
def version : List UInt8 :=
  Root.pad4 (Ascii.encode "WindowsRuntime 1.4" ++ [0])

/-- The ranges of streams that stand one behind the other from an offset on. -/
def place : Nat → List (String × List UInt8) → List (String × Extent)
  | _, [] => []
  | offset, (name, bytes) :: rest =>
      (name, ⟨offset, (Root.pad4 bytes).length⟩) ::
        place (offset + (Root.pad4 bytes).length) rest

/-- Where the first stream begins: behind the root and the headers of all streams. -/
def firstStream (streams : List (String × List UInt8)) : Nat :=
  16 + version.length + 4 +
    (streams.map fun stream => 8 + (Root.encodeName stream.1).length).sum

/-- The metadata. -/
def metadata (builder : Builder) (pointers : Bool) : List UInt8 :=
  Root.encode version
      (place (firstStream (builder.streams pointers)) (builder.streams pointers)) ++
    (builder.streams pointers).flatMap fun stream => Root.pad4 stream.2

theorem length_encode_place
    (streams : List (String × List UInt8))
    (offset : Nat) :
    (Root.encode version (place offset streams)).length = firstStream streams := by
  have headers : ∀ offset, ((place offset streams).flatMap Root.encodeStream).length =
      (streams.map fun stream => 8 + (Root.encodeName stream.1).length).sum := by
    induction streams with
    | nil => exact fun _ => rfl
    | cons stream rest induction =>
        intro offset
        simp [place, Root.encodeStream, induction]
        omega
  simp only [Root.encode, List.length_append, length_ofWord, headers, firstStream]

/-- Streams that stand one behind the other can be announced. -/
theorem announces_place
    {data : Bytes}
    {streams : List (String × List UInt8)}
    {offset : Nat}
    (plain : ∀ stream ∈ streams, Root.PlainName stream.1)
    (nonempty : ∀ stream ∈ streams, stream.2 ≠ [])
    (small : data.size < 2 ^ 32)
    (here : data.HasAt offset (streams.flatMap fun stream => Root.pad4 stream.2)) :
    ∀ stream ∈ place offset streams, Root.Announces data stream := by
  induction streams generalizing offset with
  | nil => simp [place]
  | cons stream rest induction =>
      rw [List.forall_mem_cons] at plain nonempty
      rw [List.flatMap_cons, hasAt_append] at here
      have filled : Root.pad4 stream.2 ≠ [] :=
        List.append_ne_nil_of_left_ne_nil nonempty.1 _
      have reach := here.1.holds filled
      have bound := holds_iff.1 reach
      rw [place, List.forall_mem_cons]
      refine ⟨?_, induction plain.2 nonempty.2 here.2⟩
      exact {
        plain := plain.1
        start_lt := show offset < 2 ^ 32 by omega
        size_lt := show (Root.pad4 stream.2).length < 2 ^ 32 by omega
        reach := reach }

/-- The root is read back, with the table stream and the heap of strings. -/
theorem parse_metadata
    (filled : builder.heap ≠ [])
    (small : (builder.metadata pointers).length < 2 ^ 32) :
    ∃ root, Root.parse (builder.metadata pointers).toArray = .ok root ∧
      root.tableStream = .ok (Root.pad4 (builder.tableStream pointers)).toArray ∧
      root.strings = (Root.pad4 builder.heap).toArray := by
  have whole := hasAt_self (builder.metadata pointers)
  have size : (builder.metadata pointers).toArray.size < 2 ^ 32 := small
  generalize data : (builder.metadata pointers).toArray = blob at whole size
  rw [metadata, hasAt_append, length_encode_place, Nat.zero_add] at whole
  rcases whole with ⟨rootHere, streamsHere⟩
  have plain : ∀ stream ∈ builder.streams pointers, Root.PlainName stream.1 := by
    simp only [streams, List.forall_mem_cons]
    exact ⟨by decide, by decide, by decide, by decide, by simp⟩
  have nonempty : ∀ stream ∈ builder.streams pointers, stream.2 ≠ [] := by
    simp only [streams, List.forall_mem_cons]
    exact ⟨by simp [tableStream, ofWord], filled, by decide, by decide, by simp⟩
  have announced := announces_place plain nonempty size streamsHere
  have few : (place (firstStream (builder.streams pointers))
      (builder.streams pointers)).length < 2 ^ 16 := show 4 < 2 ^ 16 by decide
  refine ⟨_, Root.parse_of_hasAt (by decide) few announced rootHere, ?_, ?_⟩
  all_goals
    generalize firstStream (builder.streams pointers) = offset at streamsHere
    simp only [streams, List.flatMap_cons, hasAt_append] at streamsHere
    rcases streamsHere with ⟨tablesHere, heapHere, -⟩
  · simp [Root.tableStream, streams, place, Dictionary.ofList, Dictionary.get?_map,
      Dictionary.get?_insert, tablesHere.slice]
  · simp [Root.strings, streams, place, Dictionary.ofList, Dictionary.get?_map,
      Dictionary.get?_insert, heapHere.slice]

/-! ## What the metadata describe -/

/-- A string of the heap is read where it stands, unless it has a null character. -/
theorem reads_of_stringAt
    {metadata : Metadata}
    {heap more : List UInt8}
    {offset : Nat}
    {text : String}
    (strings : metadata.root.strings = (heap ++ more).toArray)
    (free : '\x00' ∉ text.toList)
    (here : StringAt heap offset text) :
    metadata.Reads offset text := by
  have longer := here.append more
  rw [StringAt, ← strings] at longer
  rw [Metadata.Reads, Metadata.string_eq_ok, Metadata.needString_eq_ok, Metadata.stringAtOffset]
  split at longer
  · rename_i empty
    rw [if_pos longer]
    exact ⟨Or.inl longer, empty.symm⟩
  · rcases longer with ⟨positive, bytesHere⟩
    have reach := holds_iff.1 (bytesHere.holds (by simp))
    rw [List.length_append, List.length_singleton] at reach
    rw [hasAt_append, hasAt_cons] at bytesHere
    refine ⟨Or.inr (by omega), ?_⟩
    rw [if_neg (by omega), Metadata.stringFrom_of_hasAt bytesHere.1
      (Utf8.zero_not_mem_encode free) (by omega) (byteAt_of_getElem? bytesHere.2.1),
      Utf8.decodeReplacing_encode]

variable {metadata : Metadata} {contents : Contents} {more : List UInt8}

/-- There are pointers where they are asked for and there is a method. -/
theorem usesMethodPointers_eq
    (tables : metadata.tables = builder.writtenTables pointers) :
    metadata.usesMethodPointers = (pointers && !builder.methods.isEmpty) := by
  have count : metadata.tables.layout.count Table.methodPtr.number =
      (builder.pointerRows pointers).length := by
    rw [tables]
    rfl
  rw [Metadata.usesMethodPointers, count, length_pointerRows]
  cases pointers <;> cases builder.methods <;> simp

theorem methodListLength_eq
    (tables : metadata.tables = builder.writtenTables pointers) :
    metadata.methodListLength = builder.methods.length := by
  rw [Metadata.methodListLength, usesMethodPointers_eq tables]
  split
  · rename_i used
    rw [Bool.and_eq_true] at used
    have count : metadata.tables.layout.count Table.methodPtr.number =
        (builder.pointerRows pointers).length := by
      rw [tables]
      rfl
    rw [count, length_pointerRows, if_pos used.1]
  · have count : metadata.tables.layout.count Table.methodDef.number =
        (builder.methodRows pointers).length := by
      rw [tables]
      rfl
    rw [count, length_methodRows]

/-- The method at a position is in the row of the position, or in the one to which the pointer
at the position leads. -/
theorem methodRow_eq
    (tables : metadata.tables = builder.writtenTables pointers)
    {index : Nat}
    {row : Row}
    (found : builder.methods[index]? = some row) :
    ∃ number, metadata.methodNumber (index + 1) = .ok number ∧
      metadata.row .methodDef number = .ok row := by
  have inside := (List.getElem?_eq_some_iff.1 found).1
  have methodDefs : metadata.tables.rowsOf .methodDef =
      (builder.methodRows pointers).toArray := by
    rw [tables]
    rfl
  have filled : builder.methods.isEmpty = false := by
    rw [List.isEmpty_eq_false_iff, ← List.length_pos_iff]
    omega
  rw [Metadata.methodNumber, usesMethodPointers_eq tables, filled, Bool.not_false, Bool.and_true]
  cases pointers with
  | false =>
      refine ⟨index + 1, rfl, ?_⟩
      rw [Metadata.row_eq_ok, Metadata.row?_succ, methodDefs]
      exact found
  | true =>
      have pointerThere : metadata.row .methodPtr (index + 1) =
          .ok [builder.methods.length - index] := by
        have methodPtrs : metadata.tables.rowsOf .methodPtr =
            (builder.pointerRows true).toArray := by
          rw [tables]
          rfl
        rw [Metadata.row_eq_ok, Metadata.row?_succ, methodPtrs]
        simp [pointerRows, inside]
      refine ⟨builder.methods.length - index, by rw [if_pos rfl, pointerThere]; rfl, ?_⟩
      -- The rows stand backwards, and the pointer counts from their end.
      have place : builder.methods.length - index = builder.methods.length - index - 1 + 1 := by
        omega
      rw [place, Metadata.row_eq_ok, Metadata.row?_succ, methodDefs, methodRows, if_pos rfl,
        List.getElem?_reverse (by omega), ← found]
      congr 1
      omega

/-- Metadata with the heap and the tables of a builder describe what it was asked for. -/
theorem Holds.describes
    (holds : builder.Holds contents.references contents.types contents.methods)
    (free : ∀ name ∈ contents.names, '\x00' ∉ name.toList)
    (strings : metadata.root.strings = (builder.heap ++ more).toArray)
    (tables : metadata.tables = builder.writtenTables pointers) :
    metadata.Describes contents := by
  have reads : ∀ {offset : Nat} {text : String}, text ∈ contents.names →
      StringAt builder.heap offset text → metadata.Reads offset text :=
    fun member here => reads_of_stringAt strings (free _ member) here
  have typeRefs : metadata.tables.rowsOf .typeRef = builder.typeRefs.toArray := by
    rw [tables]
    rfl
  have typeDefs : metadata.tables.rowsOf .typeDef = builder.typeDefs.toArray := by
    rw [tables]
    rfl
  simp only [Contents.names, List.mem_append, List.mem_flatMap] at reads
  exact {
    references := by
      rw [typeRefs, List.toList_toArray]
      refine holds.typeRefs.mono fun _ type member row refers => ⟨?_, ?_⟩
      · exact reads (Or.inl ⟨type, member, by simp⟩) refers.1
      · exact reads (Or.inl ⟨type, member, by simp⟩) refers.2
    types := by
      rw [typeDefs, List.toList_toArray]
      refine holds.typeDefs.mono fun _ type member row defines => { defines with
        name := reads (Or.inr ⟨type, member, by simp⟩) defines.name
        space := reads (Or.inr ⟨type, member, by simp⟩) defines.space }
    methodListLength := by
      rw [methodListLength_eq tables, holds.methods.length_eq]
    methods := by
      intro index method found
      rcases holds.methods.each found with ⟨row, there, flags, nameHere⟩
      rcases methodRow_eq tables there with ⟨number, counted, rowFound⟩
      rcases List.mem_flatMap.1 (List.mem_of_getElem? found) with ⟨type, member, ofType⟩
      have name : metadata.Reads (row.cell 3) method.name :=
        reads (Or.inr ⟨type, member, by simp; exact Or.inr (Or.inr ⟨method, ofType, rfl⟩)⟩) nameHere
      rcases Metadata.string_eq_ok.1 name with ⟨needed, text⟩
      rw [Metadata.methodAt,
        Metadata.methodEntry_eq_ok.2 ⟨number, row, counted, rowFound, needed, rfl⟩]
      simp only [ok_bind, Metadata.defineMethod, flags, text]
      rfl }

/-- The metadata that a builder writes are read back and describe what it was asked for. -/
theorem describes_written
    (holds : builder.Holds contents.references contents.types contents.methods)
    (free : ∀ name ∈ contents.names, '\x00' ∉ name.toList)
    (few : builder.Few)
    (fit : builder.RowsFit pointers)
    (small : (builder.metadata pointers).length < 2 ^ 32) :
    ∃ metadata, Metadata.parse (builder.metadata pointers).toArray = .ok metadata ∧
      metadata.Describes contents := by
  rcases parse_metadata holds.heap_ne_nil small with ⟨root, rootRead, stream, strings⟩
  refine ⟨⟨root, builder.writtenTables pointers⟩, ?_, holds.describes free strings rfl⟩
  rw [Metadata.parse, rootRead, ok_bind, stream, ok_bind, Root.pad4, parse_tableStream few fit]
  rfl

end Builder

end WinrtLint.Archive
