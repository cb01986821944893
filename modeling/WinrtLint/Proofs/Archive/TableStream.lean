import WinrtLint.Archive.Tables
import WinrtLint.Proofs.Archive.StreamDirectory

/-!
# Writing a table stream, and reading it back

A table stream is written as its header, the counts of rows of the tables that
are present, four more bytes if the heap sizes announce them, and the rows of
the tables back to back, each value in the width of its column.  What the
header holds besides the heap sizes and the mask of present tables is skipped
when the stream is read, and so is what follows the rows.

Reading gives back what was written, at every width that the counts and the
heap sizes can prescribe.  Conversely the rows that reading gives, written
again, are the bytes that it took them from.
-/

namespace WinrtLint.Archive

open WinrtLint.Bytes
open WinrtLint.Outcome

namespace Layout

/-! ## Widths -/

/-- The width of an offset in a heap, by the flag of the heap sizes that makes it wide. -/
def offsetWidth (layout : Layout) (flag : Nat) : Nat :=
  if layout.heapSizes / flag % 2 = 1 then 4 else 2

/-- The width of a row's number: two bytes hold those of a table with fewer than 2^16 rows. -/
def rowWidth (layout : Layout) (table : Nat) : Nat :=
  if layout.count table < 2 ^ 16 then 2 else 4

/-- The width of a position in a list of rows, which its pointer table makes if it has any. -/
def listWidth (layout : Layout) (table pointers : Nat) : Nat :=
  if 0 < layout.count pointers then layout.rowWidth pointers else layout.rowWidth table

/-- The width of a row's number and a tag of two bits, which leave fourteen for the number. -/
def taggedWidth (layout : Layout) (targets : List Nat) : Nat :=
  if ∀ table ∈ targets, layout.count table < 2 ^ 14 then 2 else 4

/-- The widths of the columns of a table, as the format prescribes them. -/
def prescribed (layout : Layout) : Table → List Nat
  | .moduleTable =>
      [2, layout.offsetWidth 1, layout.offsetWidth 2, layout.offsetWidth 2, layout.offsetWidth 2]
  | .typeRef =>
      [layout.taggedWidth [0x00, 0x1A, 0x23, 0x01], layout.offsetWidth 1, layout.offsetWidth 1]
  | .typeDef =>
      [4, layout.offsetWidth 1, layout.offsetWidth 1, layout.taggedWidth [0x02, 0x01, 0x1B],
        layout.listWidth 0x04 0x03, layout.listWidth 0x06 0x05]
  | .fieldPtr => [layout.rowWidth 0x04]
  | .field => [2, layout.offsetWidth 1, layout.offsetWidth 4]
  | .methodPtr => [layout.rowWidth 0x06]
  | .methodDef =>
      [4, 2, 2, layout.offsetWidth 1, layout.offsetWidth 4, layout.listWidth 0x08 0x07]

theorem width_heap (layout : Layout) (wideBit : Nat) :
    layout.width (.heap wideBit) = layout.offsetWidth (2 ^ wideBit) := by
  rw [width, offsetWidth, Nat.testBit_eq_decide_div_mod_eq]
  simp only [decide_eq_true_eq]

theorem width_index_none (layout : Layout) (table : Nat) :
    layout.width (.index table none) = layout.rowWidth table :=
  rfl

theorem width_index_some (layout : Layout) (table pointers : Nat) :
    layout.width (.index table (some pointers)) = layout.listWidth table pointers := by
  by_cases none : layout.count pointers = 0
  · simp [width, listWidth, rowWidth, none]
  · simp [width, listWidth, rowWidth, none, Nat.pos_of_ne_zero none]

theorem foldl_max_lt_iff {bound start : Nat} {values : List Nat} :
    values.foldl max start < bound ↔ start < bound ∧ ∀ value ∈ values, value < bound := by
  induction values generalizing start with
  | nil => simp
  | cons value values induction =>
      rw [List.foldl_cons, induction, Nat.max_lt, List.forall_mem_cons, and_assoc]

theorem width_coded (layout : Layout) (targets : List Nat) :
    layout.width (.coded ⟨2, targets⟩) = layout.taggedWidth targets := by
  simp only [width, taggedWidth, foldl_max_lt_iff, List.forall_mem_map]
  simp

/-- Columns are read in the widths that the format prescribes. -/
theorem widths_eq_prescribed (layout : Layout) (table : Table) :
    layout.widths table = layout.prescribed table := by
  cases table <;>
    simp only [widths, Table.columns, Table.string, Table.guid, Table.blob,
      CodedIndex.typeDefOrRef, CodedIndex.resolutionScope, List.map_cons, List.map_nil,
      width_heap, width_index_none, width_index_some, width_coded] <;>
    rfl

theorem rowSize_eq (layout : Layout) (table : Table) :
    layout.rowSize table = totalWidth (layout.prescribed table) := by
  rw [rowSize, widths_eq_prescribed]

theorem rowWidth_pos (layout : Layout) (table : Nat) :
    0 < layout.rowWidth table := by
  rw [rowWidth]
  split <;> decide

theorem taggedWidth_pos (layout : Layout) (targets : List Nat) :
    0 < layout.taggedWidth targets := by
  rw [taggedWidth]
  split <;> decide

/-- Every table has a column, so its rows take some bytes. -/
theorem rowSize_pos (layout : Layout) (table : Table) :
    0 < layout.rowSize table := by
  have index := layout.rowWidth_pos
  have tagged := layout.taggedWidth_pos
  rw [rowSize_eq]
  cases table with
  | typeRef =>
      have first := tagged [0x00, 0x1A, 0x23, 0x01]
      simp only [prescribed, totalWidth]
      omega
  | fieldPtr => simpa [prescribed, totalWidth] using index 0x04
  | methodPtr => simpa [prescribed, totalWidth] using index 0x06
  | moduleTable | typeDef | field | methodDef =>
      simp only [prescribed, totalWidth]
      omega

end Layout

namespace Tables

/-! ## Rows -/

/-- The bytes of a row: each value in the width of its column. -/
def encodeRow (widths : List Nat) (row : Row) : List UInt8 :=
  (List.zipWith Bytes.ofWord widths row).flatten

/-- Whether a row has a value for each column, and each fits its width. -/
def RowFits (widths : List Nat) (row : Row) : Prop :=
  List.Forall₂ (fun width value => value < 256 ^ width) widths row

instance (widths : List Nat) (row : Row) : Decidable (RowFits widths row) :=
  inferInstanceAs (Decidable (List.Forall₂ (fun width value => value < 256 ^ width) widths row))

theorem length_encodeRow
    {widths : List Nat}
    {row : Row}
    (fits : RowFits widths row) :
    (encodeRow widths row).length = totalWidth widths := by
  induction fits with
  | nil => rfl
  | cons _ _ induction => simpa [encodeRow, totalWidth] using induction

theorem readCells_of_hasAt
    {stream : Bytes}
    {offset : Nat}
    {widths : List Nat}
    {row : Row}
    (fits : RowFits widths row)
    (here : stream.HasAt offset (encodeRow widths row)) :
    readCells stream offset widths = row := by
  induction fits generalizing offset with
  | nil => rfl
  | @cons width value widths row small _ induction =>
      rw [encodeRow, List.zipWith_cons_cons, List.flatten_cons, hasAt_append] at here
      rw [length_ofWord] at here
      rw [readCells, here.1.word small, induction here.2]

theorem readCells_fits (stream : Bytes) (offset : Nat) (widths : List Nat) :
    RowFits widths (readCells stream offset widths) := by
  induction widths generalizing offset with
  | nil => exact .nil
  | cons width widths induction =>
      exact .cons (word_lt stream offset width) (induction (offset + width))

/-- The bytes of a row that is read are those that it is read from. -/
theorem hasAt_encodeRow_readCells
    {stream : Bytes}
    {offset : Nat}
    {widths : List Nat}
    (reach : stream.holds offset (totalWidth widths) = true) :
    stream.HasAt offset (encodeRow widths (readCells stream offset widths)) := by
  induction widths generalizing offset with
  | nil => exact hasAt_nil stream offset
  | cons width widths induction =>
      rw [totalWidth] at reach
      have first : stream.holds offset width = true :=
        holds_start reach (Nat.le_add_right _ _)
      have later : stream.holds (offset + width) (totalWidth widths) = true :=
        holds_part reach (Nat.le_refl _)
      rw [readCells, encodeRow, List.zipWith_cons_cons, List.flatten_cons, hasAt_append,
        length_ofWord]
      exact ⟨ofWord_word first, induction later⟩

/-! ## One table -/

/-- The bytes of the rows of a table, one row behind the other. -/
def encodeTable (layout : Layout) (table : Table) (rows : Array Row) :
    List UInt8 :=
  rows.toList.flatMap (encodeRow (layout.prescribed table))

/-- Whether rows are as many as a layout says, and all of them fit the table's columns. -/
structure TableFits
    (layout : Layout)
    (table : Table)
    (rows : Array Row) : Prop where
  size_eq : rows.size = layout.count table.number
  rows_fit : ∀ row ∈ rows, RowFits (layout.prescribed table) row

instance (layout : Layout) (table : Table) (rows : Array Row) :
    Decidable (TableFits layout table rows) :=
  decidable_of_iff
    (rows.size = layout.count table.number ∧
      ∀ row ∈ rows, RowFits (layout.prescribed table) row)
    ⟨fun ⟨size_eq, rows_fit⟩ => ⟨size_eq, rows_fit⟩,
      fun fits => ⟨fits.size_eq, fits.rows_fit⟩⟩

theorem TableFits.length_encodeRow
    {layout : Layout}
    {table : Table}
    {rows : Array Row}
    (fits : TableFits layout table rows)
    (row : Row)
    (member : row ∈ rows.toList) :
    (encodeRow (layout.prescribed table) row).length = layout.rowSize table := by
  rw [layout.rowSize_eq]
  exact Tables.length_encodeRow (fits.rows_fit row (Array.mem_toList_iff.1 member))

theorem length_encodeTable
    {layout : Layout}
    {table : Table}
    {rows : Array Row}
    (fits : TableFits layout table rows) :
    (encodeTable layout table rows).length =
      layout.count table.number * layout.rowSize table := by
  rw [encodeTable, List.length_flatMap, List.map_congr_left fits.length_encodeRow,
    List.map_const', List.sum_replicate_nat, Array.length_toList, fits.size_eq]

/-- Pieces of one length stand one behind the other where each stands as many lengths along
as there are pieces before it. -/
theorem hasAt_flatMap_iff
    {Item : Type}
    {stream : Bytes}
    {offset length : Nat}
    {encode : Item → List UInt8}
    {items : List Item}
    (same : ∀ item ∈ items, (encode item).length = length) :
    stream.HasAt offset (items.flatMap encode) ↔
      ∀ (index : Nat) (inside : index < items.length),
        stream.HasAt (offset + index * length) (encode items[index]) := by
  induction items generalizing offset with
  | nil => simp [hasAt_nil]
  | cons item items induction =>
      have rest := @induction (offset + length)
        fun other member => same other (List.mem_cons_of_mem _ member)
      have along : ∀ index, offset + (index + 1) * length = offset + length + index * length := by
        intro index
        rw [Nat.add_mul]
        omega
      rw [List.flatMap_cons, hasAt_append, same item List.mem_cons_self, rest]
      constructor
      · rintro ⟨first, later⟩ index inside
        cases index with
        | zero => simpa using first
        | succ index =>
            rw [along]
            exact later index (Nat.lt_of_succ_lt_succ inside)
      · intro each
        refine ⟨by simpa using each 0 (Nat.succ_pos _), fun index inside => ?_⟩
        rw [← along]
        exact each (index + 1) (Nat.succ_lt_succ inside)

theorem readRows_of_hasAt
    {stream : Bytes}
    {offset : Nat}
    {layout : Layout}
    {table : Table}
    {rows : Array Row}
    (fits : TableFits layout table rows)
    (here : stream.HasAt offset (encodeTable layout table rows)) :
    readRows stream (layout.widths table) offset (layout.count table.number) = rows := by
  have each := (hasAt_flatMap_iff fits.length_encodeRow).1 here
  apply Array.ext
  · simp [readRows, fits.size_eq]
  · intro index _ inside
    simp only [readRows, Array.getElem_ofFn, layout.widths_eq_prescribed]
    rw [← layout.rowSize_eq]
    apply readCells_of_hasAt (fits.rows_fit _ (Array.getElem_mem inside))
    exact each index (Array.length_toList ▸ inside)

theorem readRows_fits
    (stream : Bytes)
    (layout : Layout)
    (table : Table)
    (offset : Nat) :
    TableFits layout table
      (readRows stream (layout.widths table) offset (layout.count table.number)) where
  size_eq := by simp [readRows]
  rows_fit := by
    intro row member
    rcases Array.mem_ofFn.1 member with ⟨index, rfl⟩
    rw [← layout.widths_eq_prescribed]
    exact readCells_fits _ _ _

theorem hasAt_encodeTable_readRows
    {stream : Bytes}
    {offset : Nat}
    {layout : Layout}
    {table : Table}
    (reach : layout.count table.number = 0 ∨
      stream.holds offset (layout.count table.number * layout.rowSize table) = true) :
    stream.HasAt offset (encodeTable layout table
      (readRows stream (layout.widths table) offset (layout.count table.number))) := by
  refine (hasAt_flatMap_iff (readRows_fits stream layout table offset).length_encodeRow).2 ?_
  intro index inside
  simp only [readRows, Array.toList_ofFn, List.getElem_ofFn, ← layout.widths_eq_prescribed]
  apply hasAt_encodeRow_readCells
  have bounded : index < layout.count table.number := by
    simpa [readRows] using inside
  rcases reach with none | reach
  · omega
  · have upTo : (index + 1) * layout.rowSize table ≤
        layout.count table.number * layout.rowSize table :=
      Nat.mul_le_mul_right _ bounded
    rw [Nat.add_mul, Nat.one_mul] at upTo
    exact holds_part reach upTo

/-! ## All tables -/

/-- The bytes of the rows of tables, one table behind the other. -/
def encodeEach
    (layout : Layout)
    (tables : List Table)
    (rows : List (Array Row)) :
    List UInt8 :=
  (List.zipWith (encodeTable layout) tables rows).flatten

/-- Reading tables succeeds where there is room for the first one's rows and for the rest. -/
theorem readTables_cons_eq_ok
    {stream : Bytes}
    {layout : Layout}
    {offset : Nat}
    {table : Table}
    {rest : List Table}
    {result : List (Array Row)} :
    readTables stream layout offset (table :: rest) = .ok result ↔
      (layout.count table.number = 0 ∨
        stream.holds offset (layout.count table.number * layout.rowSize table) = true) ∧
      ∃ others,
        readTables stream layout
          (offset + layout.count table.number * layout.rowSize table) rest = .ok others ∧
        result =
          readRows stream (layout.widths table) offset (layout.count table.number) ::
            others := by
  by_cases room : layout.count table.number = 0 ∨
      stream.holds offset (layout.count table.number * layout.rowSize table) = true
  · have pass : ¬ (layout.count table.number ≠ 0 ∧
        stream.holds offset (layout.count table.number * layout.rowSize table) = false) := by
      rcases room with none | reach
      · simp [none]
      · simp [reach]
    simp only [readTables, ne_eq, decide_not, Bool.and_eq_true, Bool.not_eq_eq_eq_not,
      Bool.not_true, decide_eq_false_iff_not, pass, room, if_false, true_and, bind_eq_ok,
      pure_eq_ok]
    exact exists_congr fun others => and_congr_right fun _ => eq_comm
  · have blocked : layout.count table.number ≠ 0 ∧
        stream.holds offset (layout.count table.number * layout.rowSize table) = false := by
      simpa using room
    simp [readTables, blocked.1, blocked.2, throw, throwThe, MonadExceptOf.throw]

theorem readTables_of_hasAt
    {stream : Bytes}
    {layout : Layout}
    {offset : Nat}
    {tables : List Table}
    {rows : List (Array Row)}
    (fits : List.Forall₂ (TableFits layout) tables rows)
    (here : stream.HasAt offset (encodeEach layout tables rows)) :
    readTables stream layout offset tables = .ok rows := by
  induction fits generalizing offset with
  | nil => rfl
  | @cons table first tables rows firstFits _ induction =>
      rw [encodeEach, List.zipWith_cons_cons, List.flatten_cons, hasAt_append] at here
      have length := length_encodeTable firstFits
      rw [length] at here
      refine readTables_cons_eq_ok.2 ⟨?_, rows, induction here.2, ?_⟩
      · by_cases none : layout.count table.number = 0
        · exact Or.inl none
        · have nonempty : encodeTable layout table first ≠ [] := by
            intro empty
            rw [empty, List.length_nil] at length
            rcases Nat.mul_eq_zero.1 length.symm with zero | zero
            · exact none zero
            · exact absurd zero (Nat.ne_of_gt (layout.rowSize_pos table))
          exact Or.inr (length ▸ here.1.holds nonempty)
      · rw [readRows_of_hasAt firstFits here.1]

/-- The tables that are read fit, and their bytes are those that they are read from. -/
theorem fits_and_hasAt_of_readTables
    {stream : Bytes}
    {layout : Layout}
    {offset : Nat}
    {tables : List Table}
    {rows : List (Array Row)}
    (success : readTables stream layout offset tables = .ok rows) :
    List.Forall₂ (TableFits layout) tables rows ∧
      stream.HasAt offset (encodeEach layout tables rows) := by
  induction tables generalizing offset rows with
  | nil =>
      cases success
      exact ⟨.nil, hasAt_nil stream offset⟩
  | cons table tables induction =>
      rcases readTables_cons_eq_ok.1 success with ⟨room, others, rest, rfl⟩
      rcases induction rest with ⟨othersFit, later⟩
      have firstFits := readRows_fits stream layout table offset
      refine ⟨.cons firstFits othersFit, ?_⟩
      rw [encodeEach, List.zipWith_cons_cons, List.flatten_cons, hasAt_append,
        length_encodeTable firstFits]
      exact ⟨hasAt_encodeTable_readRows room, later⟩

/-- Where a table begins whose place among tables that stand back to back is given. -/
def tableStart
    (layout : Layout)
    (offset : Nat)
    (tables : List Table)
    (place : Nat) :
    Nat :=
  offset + ((tables.take place).map fun table =>
    layout.count table.number * layout.rowSize table).sum

/-- Each table that is read has the rows at its place in the stream, and there is room for
them if there are any. -/
theorem getElem_of_readTables
    {stream : Bytes}
    {layout : Layout}
    {offset : Nat}
    {tables : List Table}
    {rows : List (Array Row)}
    (success : readTables stream layout offset tables = .ok rows)
    {place : Nat}
    {table : Table}
    (found : tables[place]? = some table) :
    (layout.count table.number = 0 ∨
      stream.holds (tableStart layout offset tables place)
        (layout.count table.number * layout.rowSize table) = true) ∧
    rows[place]? =
      some (readRows stream (layout.widths table) (tableStart layout offset tables place)
        (layout.count table.number)) := by
  induction tables generalizing offset rows place with
  | nil => simp at found
  | cons first tables induction =>
      rcases readTables_cons_eq_ok.1 success with ⟨room, others, rest, rfl⟩
      cases place with
      | zero =>
          cases found
          exact ⟨room, rfl⟩
      | succ place =>
          have later := induction rest (by simpa using found)
          have along : tableStart layout offset (first :: tables) (place + 1) =
              tableStart layout
                (offset + layout.count first.number * layout.rowSize first) tables place := by
            simp [tableStart, Nat.add_assoc]
          rw [along]
          simpa using later

theorem length_encodeEach
    {layout : Layout}
    {tables : List Table}
    {rows : List (Array Row)}
    (fits : List.Forall₂ (TableFits layout) tables rows) :
    (encodeEach layout tables rows).length =
      (tables.map fun table => layout.count table.number * layout.rowSize table).sum := by
  induction fits with
  | nil => rfl
  | cons firstFits _ induction =>
      rw [encodeEach] at induction
      simp [encodeEach, length_encodeTable firstFits, induction]

/-! ## The counts of rows -/

/-- The tables, from a number on, whose bit is set in a mask. -/
def present (valid first count : Nat) : List Nat :=
  (List.range' first count).filter valid.testBit

/-- The bytes of the counts of rows of some tables. -/
def encodeCounts (layout : Layout) (tables : List Nat) : List UInt8 :=
  tables.flatMap fun table => ofWord 4 (layout.count table)

theorem length_encodeCounts (layout : Layout) (tables : List Nat) :
    (encodeCounts layout tables).length = 4 * tables.length := by
  simp [encodeCounts, List.length_flatMap, Nat.mul_comm]

theorem present_succ (valid first count : Nat) :
    present valid first (count + 1) =
      if valid.testBit first then first :: present valid (first + 1) count
      else present valid (first + 1) count := by
  rw [present, List.range'_succ, List.filter_cons]
  rfl

/-- Counts are read where their bytes stand; absent tables have none. -/
theorem readCounts_of_hasAt
    {stream : Bytes}
    {layout : Layout}
    {valid count first offset : Nat}
    (small : ∀ table ∈ List.range' first count, layout.count table < 2 ^ 32)
    (absent : ∀ table ∈ List.range' first count,
      valid.testBit table = false → layout.count table = 0)
    (here : stream.HasAt offset (encodeCounts layout (present valid first count))) :
    readCounts stream valid count first offset =
      .ok ((List.range' first count).map layout.count,
        offset + 4 * (present valid first count).length) := by
  induction count generalizing first offset with
  | zero => rfl
  | succ count induction =>
      rw [List.range'_succ, List.forall_mem_cons] at small absent
      rw [present_succ] at here ⊢
      by_cases bit : valid.testBit first
      · rw [if_pos bit, encodeCounts, List.flatMap_cons, hasAt_append, length_ofWord] at here
        have reach : stream.holds offset 4 = true := by
          simpa using here.1.holds (by simp [ofWord])
        have head : stream.word offset 4 = layout.count first :=
          here.1.word small.1
        rw [readCounts, if_pos bit, Root.need_eq_ok.2 reach, if_pos bit]
        simp only [ok_bind, induction small.2 absent.2 here.2, head, List.range'_succ,
          List.map_cons, List.length_cons, pure_eq_ok, Prod.mk.injEq, true_and]
        omega
      · have zero : layout.count first = 0 := absent.1 (by simpa using bit)
        rw [if_neg bit] at here
        rw [readCounts, if_neg bit, if_neg bit]
        simp only [ok_bind, induction small.2 absent.2 here, zero, List.range'_succ, List.map_cons,
          pure_eq_ok]

/-- What counts that are read are like, and where reading them ends. -/
theorem counts_of_readCounts
    {stream : Bytes}
    {valid count first offset stop : Nat}
    {counts : List Nat}
    (success : readCounts stream valid count first offset = .ok (counts, stop)) :
    counts.length = count ∧
      stop = offset + 4 * (present valid first count).length ∧
      ∀ index, counts.getD index 0 < 2 ^ 32 ∧
        (valid.testBit (first + index) = false → counts.getD index 0 = 0) := by
  induction count generalizing first offset counts stop with
  | zero =>
      cases success
      exact ⟨rfl, rfl, by simp⟩
  | succ count induction =>
      rw [present_succ]
      by_cases bit : valid.testBit first
      · rw [readCounts, if_pos bit] at success
        rcases bind_eq_ok.1 success with ⟨-, -, rest⟩
        rcases bind_eq_ok.1 rest with ⟨⟨others, last⟩, later, same⟩
        cases same
        rcases induction later with ⟨length, place, each⟩
        refine ⟨by simp [length], by simp [bit, place]; omega, fun index => ?_⟩
        cases index with
        | zero => simpa [bit] using word_lt stream offset 4
        | succ index => simpa [Nat.add_assoc, Nat.add_comm 1] using each index
      · rw [readCounts, if_neg bit] at success
        rcases bind_eq_ok.1 success with ⟨⟨others, last⟩, later, same⟩
        cases same
        rcases induction later with ⟨length, place, each⟩
        refine ⟨by simp [length], by simp [bit, place], fun index => ?_⟩
        cases index with
        | zero => simp
        | succ index => simpa [Nat.add_assoc, Nat.add_comm 1] using each index

/-! ## The stream -/

/-- Where the rows of the tables begin. -/
def rowsStart (valid heapSizes : Nat) : Nat :=
  headerSize + 4 * (present valid 0 tableLimit).length +
    if heapSizes.testBit extraDataBit then 4 else 0

/-- The parts of a table stream that reading skips. -/
structure Frame where
  reserved : Nat
  majorVersion : Nat
  minorVersion : Nat
  padding : Nat
  /-- The mask of the tables that are sorted. -/
  sorted : Nat
  /-- The four bytes behind the counts, where the heap sizes announce them. -/
  extra : Nat
  /-- What follows the rows. -/
  trailing : List UInt8

/-- The bytes in front of the counts. -/
def encodeHeader (frame : Frame) (heapSizes valid : Nat) : List UInt8 :=
  ofWord 4 frame.reserved ++ ofWord 1 frame.majorVersion ++ ofWord 1 frame.minorVersion ++
    ofWord 1 heapSizes ++ ofWord 1 frame.padding ++ ofWord 8 valid ++ ofWord 8 frame.sorted

/-- The bytes between the counts and the rows. -/
def encodeExtra (frame : Frame) (heapSizes : Nat) : List UInt8 :=
  if heapSizes.testBit extraDataBit then ofWord 4 frame.extra else []

/-- The bytes of the rows of all tables that are read. -/
def encodeRows (tables : Tables) : List UInt8 :=
  encodeEach tables.layout Table.all tables.rows

/-- The table stream of some tables, given the mask of those that are present. -/
def encode (tables : Tables) (valid : Nat) (frame : Frame) : List UInt8 :=
  encodeHeader frame tables.layout.heapSizes valid ++
    encodeCounts tables.layout (present valid 0 tableLimit) ++
    encodeExtra frame tables.layout.heapSizes ++ tables.encodeRows ++ frame.trailing

/--
Whether tables can be written with a mask: the numbers of the header and the counts fit
their fields, a table that is absent has no rows, and the rows are as many as the counts
say and fit the widths that the counts and the heap sizes prescribe.
-/
structure Encodable (tables : Tables) (valid : Nat) : Prop where
  heapSizes_lt : tables.layout.heapSizes < 2 ^ 8
  valid_lt : valid < 2 ^ 64
  length_rowCounts : tables.layout.rowCounts.length = tableLimit
  count_lt : ∀ count ∈ tables.layout.rowCounts, count < 2 ^ 32
  count_absent : ∀ table < tableLimit,
    valid.testBit table = false → tables.layout.count table = 0
  rows_fit : List.Forall₂ (TableFits tables.layout) Table.all tables.rows

instance (tables : Tables) (valid : Nat) : Decidable (tables.Encodable valid) :=
  decidable_of_iff
    (tables.layout.heapSizes < 2 ^ 8 ∧ valid < 2 ^ 64 ∧
      tables.layout.rowCounts.length = tableLimit ∧
      (∀ count ∈ tables.layout.rowCounts, count < 2 ^ 32) ∧
      (∀ table < tableLimit,
        valid.testBit table = false → tables.layout.count table = 0) ∧
      List.Forall₂ (TableFits tables.layout) Table.all tables.rows)
    ⟨fun ⟨heapSizes, mask, length, small, absent, fits⟩ =>
        ⟨heapSizes, mask, length, small, absent, fits⟩,
      fun encodable =>
        ⟨encodable.heapSizes_lt, encodable.valid_lt, encodable.length_rowCounts,
          encodable.count_lt, encodable.count_absent, encodable.rows_fit⟩⟩

/-- A table stream is read in three steps: header, counts, rows. -/
theorem parse_eq_ok {stream : Bytes} {tables : Tables} :
    parse stream = .ok tables ↔
      stream.holds 0 headerSize = true ∧
      tables.layout.heapSizes = stream.word 6 1 ∧
      ∃ stop,
        readCounts stream (stream.word 8 8) tableLimit 0 headerSize =
          .ok (tables.layout.rowCounts, stop) ∧
        readTables stream tables.layout
          (if tables.layout.heapSizes.testBit extraDataBit then stop + 4 else stop)
          Table.all = .ok tables.rows := by
  rw [parse, bind_eq_ok]
  constructor
  · rintro ⟨⟨⟩, reach, chain⟩
    rcases bind_eq_ok.1 chain with ⟨⟨counts, stop⟩, countsRead, chain⟩
    rcases bind_eq_ok.1 chain with ⟨rows, rowsRead, same⟩
    cases same
    exact ⟨Root.need_eq_ok.1 reach, rfl, stop, countsRead, rowsRead⟩
  · rcases tables with ⟨⟨heapSizes, counts⟩, rows⟩
    rintro ⟨reach, same, stop, countsRead, rowsRead⟩
    cases same
    refine ⟨(), Root.need_eq_ok.2 reach, bind_eq_ok.2 ⟨(counts, stop), countsRead, ?_⟩⟩
    exact bind_eq_ok.2 ⟨rows, rowsRead, rfl⟩

@[simp]
theorem length_encodeHeader (frame : Frame) (heapSizes valid : Nat) :
    (encodeHeader frame heapSizes valid).length = headerSize := by
  simp [encodeHeader, headerSize]

theorem map_count_range'
    {layout : Layout}
    (length : layout.rowCounts.length = tableLimit) :
    (List.range' 0 tableLimit).map layout.count = layout.rowCounts := by
  apply List.ext_getElem
  · simp [length]
  · intro index _ inside
    simp [Layout.count, List.getElem?_eq_getElem inside]

theorem header_of_hasAt
    {stream : Bytes}
    {frame : Frame}
    {heapSizes valid : Nat}
    (heapSizesFit : heapSizes < 2 ^ 8)
    (validFits : valid < 2 ^ 64)
    (here : stream.HasAt 0 (encodeHeader frame heapSizes valid)) :
    stream.holds 0 headerSize = true ∧
      stream.word 6 1 = heapSizes ∧ stream.word 8 8 = valid := by
  have reach := here.holds (by simp [encodeHeader, ofWord])
  rw [length_encodeHeader] at reach
  simp only [encodeHeader, hasAt_append, length_ofWord, List.length_append] at here
  rcases here with ⟨⟨⟨⟨-, heapSizesHere⟩, -⟩, validHere⟩, -⟩
  exact ⟨reach, heapSizesHere.word heapSizesFit, validHere.word validFits⟩

/-- What is written as a table stream is read back. -/
theorem parse_encode
    {tables : Tables}
    {valid : Nat}
    (encodable : tables.Encodable valid)
    (frame : Frame) :
    parse (tables.encode valid frame).toArray = .ok tables := by
  have whole := hasAt_self (tables.encode valid frame)
  generalize (tables.encode valid frame).toArray = stream at whole ⊢
  simp only [encode, hasAt_append, List.length_append, length_encodeHeader, Nat.zero_add,
    length_encodeCounts] at whole
  rcases whole with ⟨⟨⟨⟨header, counts⟩, -⟩, rows⟩, -⟩
  rcases header_of_hasAt encodable.heapSizes_lt encodable.valid_lt header with
    ⟨reach, heapSizesRead, validRead⟩
  have small : ∀ table ∈ List.range' 0 tableLimit, tables.layout.count table < 2 ^ 32 := by
    intro table member
    apply encodable.count_lt
    rw [← map_count_range' encodable.length_rowCounts]
    exact List.mem_map_of_mem member
  have absent : ∀ table ∈ List.range' 0 tableLimit,
      valid.testBit table = false → tables.layout.count table = 0 := by
    intro table member
    exact encodable.count_absent table (by simpa using member)
  have countsRead := readCounts_of_hasAt small absent counts
  rw [map_count_range' encodable.length_rowCounts, ← validRead] at countsRead
  refine parse_eq_ok.2 ⟨reach, heapSizesRead.symm, _, countsRead, ?_⟩
  apply readTables_of_hasAt encodable.rows_fit
  rw [encodeExtra, encodeRows] at rows
  rw [validRead]
  split
  · rename_i extra
    rwa [if_pos extra, length_ofWord] at rows
  · rename_i plain
    rwa [if_neg plain, List.length_nil, Nat.add_zero] at rows

/-- The rows of a stream that is read begin behind the counts and what follows them. -/
theorem readTables_of_parse
    {stream : Bytes}
    {tables : Tables}
    (success : parse stream = .ok tables) :
    readTables stream tables.layout
      (rowsStart (stream.word 8 8) tables.layout.heapSizes) Table.all = .ok tables.rows := by
  rcases parse_eq_ok.1 success with ⟨-, -, stop, countsRead, rowsRead⟩
  rw [(counts_of_readCounts countsRead).2.1] at rowsRead
  rw [rowsStart]
  split at rowsRead
  · rename_i extra
    rwa [if_pos extra]
  · rename_i plain
    rwa [if_neg plain]

theorem encodable_of_parse
    {stream : Bytes}
    {tables : Tables}
    (success : parse stream = .ok tables) :
    tables.Encodable (stream.word 8 8) := by
  rcases parse_eq_ok.1 success with ⟨-, heapSizes, stop, countsRead, -⟩
  rcases counts_of_readCounts countsRead with ⟨length, -, each⟩
  exact {
    heapSizes_lt := heapSizes ▸ word_lt stream 6 1
    valid_lt := word_lt stream 8 8
    length_rowCounts := length
    count_lt := by
      intro count member
      rcases List.getElem_of_mem member with ⟨table, inside, rfl⟩
      simpa [inside] using (each table).1
    count_absent := fun table _ absent => (each table).2 (by rwa [Nat.zero_add])
    rows_fit := (fits_and_hasAt_of_readTables (readTables_of_parse success)).1 }

theorem Encodable.tableFits
    {tables : Tables}
    {valid : Nat}
    (encodable : tables.Encodable valid)
    (table : Table) :
    TableFits tables.layout table (tables.rowsOf table) := by
  have each := List.forall₂_iff_get.1 encodable.rows_fit
  have inside : table.number < Table.all.length := by
    cases table <;> decide
  have fits := each.2 table.number inside (each.1 ▸ inside)
  have same : Table.all.get ⟨table.number, inside⟩ = table := by
    cases table <;> rfl
  rw [same, List.get_eq_getElem] at fits
  rwa [rowsOf, List.getD_eq_getElem?_getD, List.getElem?_eq_getElem (each.1 ▸ inside),
    Option.getD_some]

/-- Where a row of a table begins in the stream that the tables are read from. -/
def rowStart (stream : Bytes) (tables : Tables) (table : Table) (index : Nat) :
    Nat :=
  tableStart tables.layout (rowsStart (stream.word 8 8) tables.layout.heapSizes) Table.all
    table.number + index * tables.layout.rowSize table

/-- A row is read from bytes that are there. -/
theorem row_of_parse
    {stream : Bytes}
    {tables : Tables}
    (success : parse stream = .ok tables)
    (table : Table)
    {index : Nat}
    (inside : index < tables.layout.count table.number) :
    stream.holds (tables.rowStart stream table index) (tables.layout.rowSize table) = true ∧
      (tables.rowsOf table)[index]? =
        some (readCells stream (tables.rowStart stream table index)
          (tables.layout.widths table)) := by
  have found : Table.all[table.number]? = some table := by
    cases table <;> rfl
  rcases getElem_of_readTables (readTables_of_parse success) found with ⟨room, rows⟩
  constructor
  · rcases room with none | reach
    · omega
    · have upTo : (index + 1) * tables.layout.rowSize table ≤
          tables.layout.count table.number * tables.layout.rowSize table :=
        Nat.mul_le_mul_right _ inside
      rw [Nat.add_mul, Nat.one_mul] at upTo
      exact holds_part reach upTo
  · rw [rowsOf, List.getD_eq_getElem?_getD, rows, Option.getD_some, readRows,
      Array.getElem?_ofFn, dif_pos inside]
    rfl

/-- How many bytes the rows of all tables that are read take by a layout. -/
def rowBytes (layout : Layout) : Nat :=
  (Table.all.map fun table => layout.count table.number * layout.rowSize table).sum

/--
Reading a table stream undoes writing it, at every width of the columns: the tables that
were written are read back, each with as many rows as its count says.  Conversely what is
read from a stream can be written, and its rows, written again, are the bytes that they took
up in it.
-/
theorem parse_inverts_encode :
    (∀ (tables : Tables) (valid : Nat) (frame : Frame), tables.Encodable valid →
      parse (tables.encode valid frame).toArray = .ok tables ∧
        ∀ table, (tables.rowsOf table).size = tables.layout.count table.number) ∧
    ∀ (stream : Bytes) (tables : Tables), parse stream = .ok tables →
      tables.Encodable (stream.word 8 8) ∧
        stream.slice (rowsStart (stream.word 8 8) tables.layout.heapSizes)
          (rowBytes tables.layout) = tables.encodeRows.toArray := by
  constructor
  · intro tables valid frame encodable
    exact ⟨parse_encode encodable frame, fun table => (encodable.tableFits table).size_eq⟩
  · intro stream tables success
    rcases fits_and_hasAt_of_readTables (readTables_of_parse success) with ⟨fits, here⟩
    have length : tables.encodeRows.length = rowBytes tables.layout :=
      length_encodeEach fits
    refine ⟨encodable_of_parse success, ?_⟩
    rw [← length]
    exact here.slice

/-- Tables whose scopes, strings and blobs take four bytes: there are many assembly
references, though their rows are not read. -/
def wideTables : Tables where
  layout :=
    ⟨0x45, (List.range tableLimit).map fun table =>
      if table = 1 ∨ table = 2 then 1 else if table = 0x23 then 2 ^ 16 else 0⟩
  rows := [#[], #[[0x40006, 1, 0x12345]], #[[0x101, 7, 1, 5, 1, 1]], #[], #[], #[], #[]]

/-- The mask of the tables that `wideTables` has. -/
def wideMask : Nat :=
  2 ^ 0x01 + 2 ^ 0x02 + 2 ^ 0x23

/-- The table stream of `wideTables`, with a byte behind its rows. -/
def wideStream : Bytes :=
  (wideTables.encode wideMask ⟨0, 2, 0, 1, 0, 9, [0xFF]⟩).toArray

theorem parse_wideStream :
    wideTables.layout.prescribed .typeRef = [4, 4, 4] ∧
      wideTables.Encodable wideMask ∧
      parse wideStream = .ok wideTables ∧
      wideStream.slice (rowsStart (wideStream.word 8 8) wideTables.layout.heapSizes)
        (rowBytes wideTables.layout) = wideTables.encodeRows.toArray := by
  have encodable : wideTables.Encodable wideMask := by decide +kernel
  have success : parse wideStream = .ok wideTables :=
    (parse_inverts_encode.1 wideTables wideMask _ encodable).1
  exact ⟨by decide, encodable, success, (parse_inverts_encode.2 _ _ success).2⟩

end Tables

end WinrtLint.Archive
