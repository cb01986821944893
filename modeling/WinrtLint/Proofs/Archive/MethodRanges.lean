import Mathlib.Data.List.Nodup
import Mathlib.Data.List.Pairwise
import WinrtLint.Proofs.Archive.Contents
import WinrtLint.Proofs.Archive.TableStream

/-!
# Which methods belong to a type

A type has the positions from its own first one up to the first one of the
next type, as far as they are positions of the list of methods at all
(`positionsBetween`).  So whatever the rows hold, no position outside the list
is ever visited, and the row of a visited position is there.  Where the first
positions never go down, the ranges of the types follow one another without a
gap (`positionsBetween_append`), and every method from the first range on
belongs to one type.
-/

namespace WinrtLint.Archive.Metadata

open WinrtLint.Bytes
open WinrtLint.Outcome

variable {data : Bytes} {metadata : Metadata}

/-! ## Rows that are there -/

theorem parse_eq_ok :
    Metadata.parse data = .ok metadata ↔
      Root.parse data = .ok metadata.root ∧
        ∃ stream, metadata.root.tableStream = .ok stream ∧
          Tables.parse stream = .ok metadata.tables := by
  rw [Metadata.parse, bind_eq_ok]
  constructor
  · rintro ⟨root, rootRead, chain⟩
    rcases bind_eq_ok.1 chain with ⟨stream, streamFound, chain⟩
    rcases bind_eq_ok.1 chain with ⟨tables, tablesRead, same⟩
    cases same
    exact ⟨rootRead, stream, streamFound, tablesRead⟩
  · rintro ⟨rootRead, stream, streamFound, tablesRead⟩
    refine ⟨_, rootRead, ?_⟩
    rw [streamFound, ok_bind, tablesRead]
    rfl

/-- A table has as many rows as its count says. -/
theorem size_rowsOf
    (parsed : Metadata.parse data = .ok metadata)
    (table : Table) :
    (metadata.tables.rowsOf table).size = metadata.tables.layout.count table.number := by
  rcases parse_eq_ok.1 parsed with ⟨-, stream, -, tablesRead⟩
  exact ((Tables.encodable_of_parse tablesRead).tableFits table).size_eq

theorem exists_row
    {table : Table}
    {number : Nat}
    (least : 1 ≤ number)
    (greatest : number ≤ (metadata.tables.rowsOf table).size) :
    ∃ row, metadata.row? table number = some row := by
  rcases Nat.exists_eq_add_of_le' least with ⟨index, rfl⟩
  rw [row?_succ]
  exact ⟨_, List.getElem?_eq_getElem (by rwa [Array.length_toList])⟩

theorem number_of_row?
    {table : Table}
    {number : Nat}
    {row : Row}
    (found : metadata.row? table number = some row) :
    1 ≤ number ∧ number ≤ (metadata.tables.rowsOf table).size := by
  cases number with
  | zero => cases found
  | succ index =>
      rw [row?_succ] at found
      have inside := (List.getElem?_eq_some_iff.1 found).1
      rw [Array.length_toList] at inside
      exact ⟨Nat.le_add_left 1 index, inside⟩

/-! ## Ranges of positions -/

/-- The positions of a list from a first one up to the next one that is not meant any more. -/
def positionsBetween (length first next : Nat) : List Nat :=
  List.range' (max first 1) (min next (length + 1) - max first 1)

theorem mem_positionsBetween {length first next position : Nat} :
    position ∈ positionsBetween length first next ↔
      (1 ≤ position ∧ position ≤ length) ∧ first ≤ position ∧ position < next := by
  rw [positionsBetween, List.mem_range'_1]
  omega

/-- A range and the one that goes on from its end are one range up to the end of the list. -/
theorem positionsBetween_append
    {length first middle : Nat}
    (ordered : first ≤ middle) :
    positionsBetween length first middle ++ positionsBetween length middle (length + 1) =
      positionsBetween length first (length + 1) := by
  simp only [positionsBetween, Nat.min_self]
  rcases Nat.eq_zero_or_pos middle with none | positive
  · -- Both ranges begin with the list, and the first one ends there.
    have low : first = 0 := by omega
    rw [none, low]
    rfl
  · rcases Nat.lt_or_ge length middle with beyond | within
    · -- The first range has all that is left of the list.
      rw [Nat.min_eq_right (show length + 1 ≤ middle from beyond),
        Nat.sub_eq_zero_of_le (show length + 1 ≤ max middle 1 by omega)]
      exact List.append_nil _
    · have start : max middle 1 =
          max first 1 + (min middle (length + 1) - max first 1) := by
        omega
      have total : length + 1 - max first 1 =
          (min middle (length + 1) - max first 1) + (length + 1 - max middle 1) := by
        omega
      rw [total, start, List.range'_append_1]

theorem methodPositions_of_next
    {number : Nat}
    {row next : Row}
    (found : metadata.row? .typeDef number = some row)
    (later : metadata.row? .typeDef (number + 1) = some next) :
    metadata.methodPositions number =
      positionsBetween metadata.methodListLength (firstMethod row) (firstMethod next) := by
  rw [row?_succ, Array.getElem?_toList] at later
  rw [methodPositions, found]
  simp only [later]
  rfl

theorem methodPositions_of_last
    {number : Nat}
    {row : Row}
    (found : metadata.row? .typeDef number = some row)
    (last : metadata.row? .typeDef (number + 1) = none) :
    metadata.methodPositions number =
      positionsBetween metadata.methodListLength (firstMethod row)
        (metadata.methodListLength + 1) := by
  rw [row?_succ, Array.getElem?_toList] at last
  rw [methodPositions, found, positionsBetween, Nat.min_self]
  simp only [last]

theorem methodPositions_of_missing
    {number : Nat}
    (missing : metadata.row? .typeDef number = none) :
    metadata.methodPositions number = [] := by
  rw [methodPositions, missing]

theorem position_of_mem
    {number position : Nat}
    (member : position ∈ metadata.methodPositions number) :
    1 ≤ position ∧ position ≤ metadata.methodListLength := by
  cases found : metadata.row? .typeDef number with
  | none =>
      rw [methodPositions_of_missing found] at member
      cases member
  | some row =>
      cases later : metadata.row? .typeDef (number + 1) with
      | none =>
          rw [methodPositions_of_last found later, mem_positionsBetween] at member
          exact member.1
      | some next =>
          rw [methodPositions_of_next found later, mem_positionsBetween] at member
          exact member.1

/-! ## Methods in rows of their own -/

/-- Where the row of a position is there, only its name can be missing. -/
theorem methodEntry_of_row
    {position number : Nat}
    {row : Row}
    (counted : metadata.methodNumber position = .ok number)
    (there : metadata.row .methodDef number = .ok row) :
    metadata.methodEntry position =
      (metadata.needString (row.cell 3)).map fun _ => ⟨row.cell 3, row.cell 2⟩ := by
  rw [methodEntry_eq, counted, ok_bind, there, ok_bind]
  cases metadata.needString (row.cell 3) <;> rfl

theorem methodNumber_of_direct
    (direct : metadata.usesMethodPointers = false)
    (position : Nat) :
    metadata.methodNumber position = .ok position := by
  rw [methodNumber, direct]
  rfl

theorem exists_methodRow
    (parsed : Metadata.parse data = .ok metadata)
    (direct : metadata.usesMethodPointers = false)
    {number position : Nat}
    (member : position ∈ metadata.methodPositions number) :
    ∃ row, metadata.row .methodDef position = .ok row := by
  rcases position_of_mem member with ⟨least, greatest⟩
  rw [methodListLength, direct, if_neg Bool.false_ne_true, ← size_rowsOf parsed] at greatest
  rcases exists_row least greatest with ⟨row, found⟩
  exact ⟨row, row_eq_ok.2 found⟩

/-- Without pointers a method that cannot be read has its name outside the heap. -/
theorem methodAt_eq_error
    {position : Nat}
    {row : Row}
    {fault : FormatError}
    (direct : metadata.usesMethodPointers = false)
    (there : metadata.row .methodDef position = .ok row)
    (failed : metadata.methodAt position = .error fault) :
    fault = .stringOutside (row.cell 3) ∧ metadata.root.strings.size ≤ row.cell 3 := by
  rw [methodAt, methodEntry_of_row (methodNumber_of_direct direct position) there,
    needString] at failed
  split at failed
  · rename_i outside
    rw [Bool.and_eq_true, decide_eq_true_eq, decide_eq_true_eq] at outside
    cases failed
    exact ⟨rfl, outside.2⟩
  · cases failed

theorem methods_eq_error
    (parsed : Metadata.parse data = .ok metadata)
    (direct : metadata.usesMethodPointers = false)
    {number : Nat}
    {fault : FormatError}
    (failed : metadata.methods number = .error fault) :
    ∃ position ∈ metadata.methodPositions number, ∃ row,
      metadata.row .methodDef position = .ok row ∧
        fault = .stringOutside (row.cell 3) ∧ metadata.root.strings.size ≤ row.cell 3 := by
  rcases exists_mem_of_mapM_error failed with ⟨position, member, refused⟩
  rcases exists_methodRow parsed direct member with ⟨row, there⟩
  exact ⟨position, member, row, there, methodAt_eq_error direct there refused⟩

/-! ## One type for every method -/

/-- Whether no type has its first method before that of a type in front of it. -/
def MethodListsAscend (metadata : Metadata) : Prop :=
  ((metadata.tables.rowsOf .typeDef).toList.map firstMethod).Pairwise (· ≤ ·)

instance (metadata : Metadata) : Decidable metadata.MethodListsAscend :=
  inferInstanceAs (Decidable (List.Pairwise _ _))

theorem MethodListsAscend.le
    (ascend : metadata.MethodListsAscend)
    {number : Nat}
    {row next : Row}
    (found : metadata.row? .typeDef number = some row)
    (later : metadata.row? .typeDef (number + 1) = some next) :
    firstMethod row ≤ firstMethod next := by
  rcases Nat.exists_eq_add_of_le' (number_of_row? found).1 with ⟨index, rfl⟩
  rw [row?_succ] at found later
  rcases List.getElem?_eq_some_iff.1 found with ⟨inside, rfl⟩
  rcases List.getElem?_eq_some_iff.1 later with ⟨insideNext, rfl⟩
  have ordered := List.pairwise_iff_getElem.1 ascend index (index + 1)
    (by rwa [List.length_map]) (by rwa [List.length_map]) (Nat.lt_succ_self index)
  rwa [List.getElem_map, List.getElem_map] at ordered

/-- The positions of the types from one on, one type behind the other, go from its first one to
the end of the list. -/
theorem flatMap_methodPositions
    (ascend : metadata.MethodListsAscend)
    {number count : Nat}
    (upTo : number + count = metadata.typeCount)
    {row : Row}
    (found : metadata.row? .typeDef number = some row) :
    (List.range' number (count + 1)).flatMap metadata.methodPositions =
      positionsBetween metadata.methodListLength (firstMethod row)
        (metadata.methodListLength + 1) := by
  induction count generalizing number row with
  | zero =>
      have last : metadata.row? .typeDef (number + 1) = none := by
        rw [Option.eq_none_iff_forall_ne_some]
        intro next there
        have beyond := (number_of_row? there).2
        rw [typeCount] at upTo
        omega
      rw [List.range'_one, List.flatMap_singleton, methodPositions_of_last found last]
  | succ count induction =>
      have inside : number + 1 ≤ (metadata.tables.rowsOf .typeDef).size := by
        rw [typeCount] at upTo
        omega
      rcases exists_row (Nat.le_add_left 1 number) inside with ⟨next, later⟩
      have rest := induction (by omega) later
      rw [List.range'_succ, List.flatMap_cons, rest, methodPositions_of_next found later]
      exact positionsBetween_append (ascend.le found later)

/-- Where all positions together are a range, no position belongs to two types. -/
theorem existsUnique_of_flatMap
    {first length position : Nat}
    (all : (List.range' 1 metadata.typeCount).flatMap metadata.methodPositions =
      positionsBetween length first (length + 1))
    (member : position ∈ positionsBetween length first (length + 1)) :
    ∃! number, position ∈ metadata.methodPositions number := by
  have listed : ∀ number, position ∈ metadata.methodPositions number →
      number ∈ List.range' 1 metadata.typeCount := by
    intro number here
    cases found : metadata.row? .typeDef number with
    | none =>
        rw [methodPositions_of_missing found] at here
        cases here
    | some row =>
        have bounds := number_of_row? found
        rw [List.mem_range'_1, typeCount]
        omega
  have distinct : ((List.range' 1 metadata.typeCount).flatMap metadata.methodPositions).Nodup := by
    rw [all]
    exact List.nodup_range'
  have apart := (List.nodup_flatMap.1 distinct).2
  have symmetric : Std.Symm (Function.onFun List.Disjoint metadata.methodPositions) :=
    ⟨fun _ _ disjoint _ inFirst inSecond => disjoint inSecond inFirst⟩
  rw [← all, List.mem_flatMap] at member
  rcases member with ⟨number, inRange, here⟩
  refine ⟨number, here, ?_⟩
  intro other there
  refine Classical.byContradiction fun differs => ?_
  exact apart.forall (listed other there) inRange differs there here

/--
In metadata that are read, only positions of the list of methods are visited, so that without
pointers nothing but a name outside the heap can stop the methods of a type from being read.
Where the first methods of the types never go down, the positions of all types in order are
those from the first type's first method to the end of the list, and each of them belongs to
one type.
-/
theorem methods_partitioned (parsed : Metadata.parse data = .ok metadata) :
    (∀ number, ∀ position ∈ metadata.methodPositions number,
      1 ≤ position ∧ position ≤ metadata.methodListLength) ∧
    (metadata.usesMethodPointers = false →
      ∀ number fault, metadata.methods number = .error fault →
        ∃ position ∈ metadata.methodPositions number, ∃ row,
          metadata.row .methodDef position = .ok row ∧
            fault = .stringOutside (row.cell 3) ∧ metadata.root.strings.size ≤ row.cell 3) ∧
    (metadata.MethodListsAscend →
      ∀ first, metadata.row? .typeDef 1 = some first →
        (List.range' 1 metadata.typeCount).flatMap metadata.methodPositions =
          List.range' (max (firstMethod first) 1)
            (metadata.methodListLength + 1 - max (firstMethod first) 1) ∧
        ∀ position, max (firstMethod first) 1 ≤ position →
          position ≤ metadata.methodListLength →
            ∃! number, position ∈ metadata.methodPositions number) := by
  refine ⟨fun _ _ => position_of_mem, fun direct _ _ => methods_eq_error parsed direct, ?_⟩
  intro ascend first found
  have count := (number_of_row? found).2
  have all := flatMap_methodPositions ascend
    (show 1 + (metadata.typeCount - 1) = metadata.typeCount by rw [typeCount]; omega) found
  rw [Nat.sub_add_cancel (show 1 ≤ metadata.typeCount from count)] at all
  constructor
  · rw [all, positionsBetween, Nat.min_self]
  · intro position least greatest
    exact existsUnique_of_flatMap all (mem_positionsBetween.2 (by omega))

/-! ## A sample -/

/-- A table stream in which only the heap sizes, the counts and the rows matter. -/
def tableStream (tables : Tables) (mask : Nat) : List UInt8 :=
  tables.encode mask ⟨0, 2, 0, 1, 0, 0, []⟩

/-- The metadata that have some tables and a heap of strings, and nothing else. -/
def ofTables (tables : Tables) (mask : Nat) (heap : List UInt8) : Metadata :=
  ⟨⟨"", ⟨[("#~", (tableStream tables mask).toArray), ("#Strings", heap.toArray)]⟩⟩, tables⟩

def extentsOf (stream heap : List UInt8) : List (String × Extent) :=
  [("#~", ⟨52, stream.length⟩), ("#Strings", ⟨52 + stream.length, heap.length⟩)]

def encode (tables : Tables) (mask : Nat) (heap : List UInt8) : List UInt8 :=
  Root.encode [] (extentsOf (tableStream tables mask) heap) ++ tableStream tables mask ++ heap

theorem parse_encode
    {tables : Tables}
    {mask : Nat}
    (encodable : tables.Encodable mask)
    {heap : List UInt8}
    (small : (encode tables mask heap).length < 2 ^ 32) :
    Metadata.parse (encode tables mask heap).toArray = .ok (ofTables tables mask heap) := by
  have whole := hasAt_self (encode tables mask heap)
  have size : (encode tables mask heap).toArray.size = (encode tables mask heap).length := rfl
  generalize (encode tables mask heap).toArray = data at whole size ⊢
  have tablesRead : Tables.parse (tableStream tables mask).toArray = .ok tables :=
    Tables.parse_encode encodable _
  rw [encode] at whole size small
  rw [ofTables]
  generalize tableStream tables mask = stream at whole size small tablesRead ⊢
  have start : (Root.encode [] (extentsOf stream heap)).length = 52 := by
    simp [Root.encode, extentsOf, Root.encodeStream, Root.length_encodeName,
      Root.length_encode, Root.paddedLength]
  simp only [hasAt_append, List.length_append, start, Nat.zero_add] at whole
  rcases whole with ⟨⟨rootHere, streamHere⟩, heapHere⟩
  simp only [List.length_append, start] at size small
  have announced : ∀ part ∈ extentsOf stream heap, Root.Announces data part := by
    rw [extentsOf, List.forall_mem_cons, List.forall_mem_singleton]
    constructor
    · exact {
        plain := (by decide : Root.PlainName "#~")
        start_lt := (by decide : 52 < 2 ^ 32)
        size_lt := show stream.length < 2 ^ 32 by omega
        reach := holds_iff.2 (show 52 + stream.length ≤ data.size by omega) }
    · exact {
        plain := (by decide : Root.PlainName "#Strings")
        start_lt := show 52 + stream.length < 2 ^ 32 by omega
        size_lt := show heap.length < 2 ^ 32 by omega
        reach := holds_iff.2 (show 52 + stream.length + heap.length ≤ data.size by omega) }
  have rootRead := @Root.parse_of_hasAt data [] (extentsOf stream heap) (by decide)
    (show 2 < 2 ^ 16 by decide) announced rootHere
  have streams : (Dictionary.ofList (extentsOf stream heap)).map
      (fun extent => Bytes.slice data extent.start extent.size) =
      ⟨[("#~", stream.toArray), ("#Strings", heap.toArray)]⟩ := by
    have names : Dictionary.ofList (extentsOf stream heap) = ⟨extentsOf stream heap⟩ := by
      simp [extentsOf, Dictionary.ofList, Dictionary.insert, putEntry, Dictionary.empty]
    rw [← streamHere.slice, ← heapHere.slice, names]
    rfl
  have version : Text.Utf8.decodeReplacing (Root.untilZero []) = "" :=
    Text.Utf8.decodeReplacing_encode ""
  rw [streams, version] at rootRead
  exact parse_eq_ok.2 ⟨rootRead, stream.toArray, rfl, tablesRead⟩

/-- Four types: the first one has no methods, though it does not begin with the first method,
and the last one begins past the end.  The name of the last method is outside the heap. -/
def clampedTables : Tables where
  layout := ⟨0, [0, 0, 4, 0, 0, 0, 3] ++ List.replicate 57 0⟩
  rows :=
    [#[], #[],
      #[[1, 1, 0, 0, 1, 2], [1, 1, 0, 0, 1, 2], [1, 1, 0, 0, 1, 3], [1, 1, 0, 0, 1, 9]],
      #[], #[], #[],
      #[[0, 0, 6, 1, 0, 1], [0, 0, 6, 1, 0, 1], [0, 0, 6, 99, 0, 1]]]

theorem methods_partitioned_clampedTables :
    let metadata := ofTables clampedTables 0x44 [0, 65, 0]
    Metadata.parse (encode clampedTables 0x44 [0, 65, 0]).toArray = .ok metadata ∧
      metadata.methods 3 = .error (.stringOutside 99) ∧ metadata.root.strings.size ≤ 99 ∧
      (List.range' 1 metadata.typeCount).flatMap metadata.methodPositions = [2, 3] ∧
      ∃! number, 3 ∈ metadata.methodPositions number := by
  intro metadata
  have parsed : Metadata.parse (encode clampedTables 0x44 [0, 65, 0]).toArray = .ok metadata :=
    parse_encode (by decide +kernel) (by decide +kernel)
  rcases methods_partitioned parsed with ⟨-, faults, all⟩
  have failed : metadata.methods 3 = .error (.stringOutside 99) := by decide
  rcases all (by decide) [1, 1, 0, 0, 1, 2] rfl with ⟨range, each⟩
  refine ⟨parsed, failed, ?_, range, each 3 (by decide) (by decide)⟩
  rcases faults rfl 3 _ failed with ⟨position, -, row, -, same, outside⟩
  rwa [← FormatError.stringOutside.inj same] at outside

end WinrtLint.Archive.Metadata
