import WinrtLint.Proofs.Archive.TableStream

/-!
# Room in the columns of indexes

The width of an index is chosen from counts of rows, so that every row that the
index could name has room in it: a plain index holds the numbers of the rows of
the table it refers to (`row_lt_width`), and a tagged one those of each of its
tables together with the table's tag (`encode_lt_width`).  A tagged value is
read in one way only: its low bits are the tag, which must belong to a table,
and the others are the row (`decode_encode`, `encode_of_decode`).
-/

namespace WinrtLint.Archive

namespace CodedIndex

variable {scheme : CodedIndex} {tag row value table : Nat}

theorem encode_eq (scheme : CodedIndex) (tag row : Nat) :
    scheme.encode tag row = row * 2 ^ scheme.tagBits + tag := by
  rw [encode, Nat.shiftLeft_eq]

theorem decode_of_tag
    (found : scheme.targets[value % 2 ^ scheme.tagBits]? = some table) :
    scheme.decode value = .ok (table, value / 2 ^ scheme.tagBits) := by
  rw [decode, Nat.one_shiftLeft, Nat.shiftRight_eq_div_pow]
  simp only [found]

theorem decode_eq_error {fault : FormatError} :
    scheme.decode value = .error fault ↔
      scheme.targets.length ≤ value % 2 ^ scheme.tagBits ∧
        fault = .tagOutside (value % 2 ^ scheme.tagBits) := by
  rcases Nat.lt_or_ge (value % 2 ^ scheme.tagBits) scheme.targets.length with inside | outside
  · rw [decode_of_tag (List.getElem?_eq_getElem inside)]
    simp [Nat.not_le_of_lt inside]
  · rw [decode, Nat.one_shiftLeft]
    simp [outside, eq_comm]

theorem decode_encode
    (small : tag < 2 ^ scheme.tagBits)
    (found : scheme.targets[tag]? = some table) :
    scheme.decode (scheme.encode tag row) = .ok (table, row) := by
  have low : scheme.encode tag row % 2 ^ scheme.tagBits = tag := by
    rw [encode_eq, Nat.mul_add_mod_self_right, Nat.mod_eq_of_lt small]
  have high : scheme.encode tag row / 2 ^ scheme.tagBits = row := by
    rw [encode_eq, Nat.mul_comm, Nat.mul_add_div (Nat.two_pow_pos _), Nat.div_eq_of_lt small,
      Nat.add_zero]
  rw [decode_of_tag (low.symm ▸ found), high]

/-- The tag by which a value refers to a table. -/
def tagOf (scheme : CodedIndex) (table : Nat) : Nat :=
  scheme.targets.idxOf table

/-- The tables of a scheme are told apart by tags that fit the bits set aside for them, and
these are two bits at most. -/
structure TellsApart (scheme : CodedIndex) : Prop where
  nodup : scheme.targets.Nodup
  length_le : scheme.targets.length ≤ 2 ^ scheme.tagBits
  tagBits_le : scheme.tagBits ≤ 2

theorem TellsApart.tag_lt
    (apart : scheme.TellsApart)
    (found : scheme.targets[tag]? = some table) :
    tag < 2 ^ scheme.tagBits :=
  Nat.lt_of_lt_of_le (List.getElem?_eq_some_iff.1 found).1 apart.length_le

theorem TellsApart.tagOf_eq
    (apart : scheme.TellsApart)
    (found : scheme.targets[tag]? = some table) :
    scheme.tagOf table = tag := by
  rcases List.getElem?_eq_some_iff.1 found with ⟨inside, rfl⟩
  exact apart.nodup.idxOf_getElem tag inside

/-- A value whose tag belongs to a table is read, and what is read gives the value again. -/
theorem TellsApart.encode_of_decode
    (apart : scheme.TellsApart)
    (inside : value % 2 ^ scheme.tagBits < scheme.targets.length) :
    ∃ table row, scheme.decode value = .ok (table, row) ∧
      scheme.encode (scheme.tagOf table) row = value := by
  have found := List.getElem?_eq_getElem inside
  refine ⟨_, _, decode_of_tag found, ?_⟩
  rw [apart.tagOf_eq found, encode_eq, Nat.div_add_mod']

/-- A number of some bits and a tag fit the bits of both. -/
theorem encode_lt
    {room : Nat}
    (tagSmall : tag < 2 ^ scheme.tagBits)
    (rowSmall : row < 2 ^ room) :
    scheme.encode tag row < 2 ^ (room + scheme.tagBits) := by
  calc scheme.encode tag row
      = row * 2 ^ scheme.tagBits + tag := encode_eq scheme tag row
    _ < row * 2 ^ scheme.tagBits + 2 ^ scheme.tagBits := Nat.add_lt_add_left tagSmall _
    _ = (row + 1) * 2 ^ scheme.tagBits := (Nat.succ_mul ..).symm
    _ ≤ 2 ^ room * 2 ^ scheme.tagBits := Nat.mul_le_mul_right _ rowSmall
    _ = 2 ^ (room + scheme.tagBits) := (Nat.pow_add ..).symm

end CodedIndex

theorem tellsApart_of_mem_columns
    {table : Table}
    {scheme : CodedIndex}
    (column : .coded scheme ∈ table.columns) :
    scheme.TellsApart := by
  have known : scheme = .typeDefOrRef ∨ scheme = .resolutionScope := by
    cases table <;> simp [Table.columns, Table.string, Table.guid, Table.blob] at column <;>
      simp [column]
  rcases known with rfl | rfl
  · exact ⟨by decide, by decide, by decide⟩
  · exact ⟨by decide, by decide, by decide⟩

namespace Layout

variable {layout : Layout}

/-- The table whose rows an index names: the pointer table in front of a table, if it has rows,
and otherwise the table itself. -/
def named (layout : Layout) (table : Nat) (pointers : Option Nat) : Nat :=
  match pointers with
  | none => table
  | some pointers => if 0 < layout.count pointers then pointers else table

theorem width_index (layout : Layout) (table : Nat) (pointers : Option Nat) :
    layout.width (.index table pointers) = layout.rowWidth (layout.named table pointers) := by
  cases pointers with
  | none => exact layout.width_index_none table
  | some pointers =>
      rw [width_index_some, listWidth, named]
      exact (apply_ite layout.rowWidth _ pointers table).symm

theorem count_lt
    {bound : Nat}
    (positive : 0 < bound)
    (bounded : ∀ count ∈ layout.rowCounts, count < bound)
    (table : Nat) :
    layout.count table < bound := by
  rw [count, List.getD_eq_getElem?_getD]
  cases found : layout.rowCounts[table]? with
  | none => exact positive
  | some rows => exact bounded rows (List.mem_of_getElem? found)

theorem row_lt_width
    {table row : Nat}
    {pointers : Option Nat}
    (bounded : layout.count (layout.named table pointers) < 2 ^ 32)
    (among : row ≤ layout.count (layout.named table pointers)) :
    row < 256 ^ layout.width (.index table pointers) := by
  rw [width_index, rowWidth]
  split
  · rename_i few
    exact Nat.lt_of_le_of_lt among few
  · exact Nat.lt_of_le_of_lt among bounded

/-- A tagged index takes two bytes only if its tag leaves room there for every row. -/
theorem encode_lt_width
    {scheme : CodedIndex}
    {tag row target : Nat}
    (apart : scheme.TellsApart)
    (found : scheme.targets[tag]? = some target)
    (bounded : layout.count target < 2 ^ 30)
    (among : row ≤ layout.count target) :
    scheme.encode tag row < 256 ^ layout.width (.coded scheme) := by
  have tagSmall := apart.tag_lt found
  have bits := apart.tagBits_le
  rw [width, Nat.one_shiftLeft]
  split
  · rename_i few
    have fewRows := (foldl_max_lt_iff.1 few).2 _
      (List.mem_map_of_mem (List.mem_of_getElem? found))
    have fits := CodedIndex.encode_lt tagSmall (Nat.lt_of_le_of_lt among fewRows)
    rwa [Nat.sub_add_cancel (by omega : scheme.tagBits ≤ 16)] at fits
  · calc scheme.encode tag row
        < 2 ^ (30 + scheme.tagBits) :=
          CodedIndex.encode_lt tagSmall (Nat.lt_of_le_of_lt among bounded)
      _ ≤ 2 ^ 32 := Nat.pow_le_pow_right (by decide) (by omega)

/-- Every index has room for the rows it can name, and tagged ones are read in one way. -/
theorem indexes_have_room
    (layout : Layout)
    (bounded : ∀ count ∈ layout.rowCounts, count < 2 ^ 30)
    (table : Table) :
    (∀ target pointers, .index target pointers ∈ table.columns →
      ∀ row ≤ layout.count (layout.named target pointers),
        row < 256 ^ layout.width (.index target pointers)) ∧
    ∀ scheme, .coded scheme ∈ table.columns →
      (∀ tag target, scheme.targets[tag]? = some target → ∀ row ≤ layout.count target,
        row * 2 ^ scheme.tagBits + tag < 256 ^ layout.width (.coded scheme) ∧
          scheme.decode (row * 2 ^ scheme.tagBits + tag) = .ok (target, row)) ∧
      ∀ value,
        let tag := value % 2 ^ scheme.tagBits
        (∀ fault, scheme.decode value = .error fault ↔
          scheme.targets.length ≤ tag ∧ fault = .tagOutside tag) ∧
        (tag < scheme.targets.length → ∃ target row, scheme.decode value = .ok (target, row) ∧
          row * 2 ^ scheme.tagBits + scheme.tagOf target = value) := by
  have fewer := count_lt (Nat.two_pow_pos 30) bounded
  refine ⟨?_, fun scheme column => ?_⟩
  · intro target pointers _ row among
    exact row_lt_width (Nat.lt_trans (fewer _) (by decide)) among
  · have apart := tellsApart_of_mem_columns column
    simp only [← CodedIndex.encode_eq]
    refine ⟨?_, fun value => ⟨fun fault => CodedIndex.decode_eq_error, apart.encode_of_decode⟩⟩
    intro tag target found row among
    exact ⟨encode_lt_width apart found (fewer target) among,
      CodedIndex.decode_encode (apart.tag_lt found) found⟩

/-- Counts of rows at the last values that two bytes hold, behind a tag and alone, and one past
each of them. -/
def brimLayout : Layout :=
  ⟨0, [0, 2 ^ 14 - 1, 2 ^ 14, 0, 2 ^ 16 - 1, 2 ^ 16, 2 ^ 30 - 1]⟩

theorem indexes_have_room_brimLayout :
    (∀ count ∈ brimLayout.rowCounts, count < 2 ^ 30) ∧
      brimLayout.width (.coded .resolutionScope) = 2 ∧
      CodedIndex.resolutionScope.decode 0xFFFF = .ok (0x01, 2 ^ 14 - 1) ∧
      brimLayout.widths .typeDef = [4, 2, 2, 4, 2, 4] ∧
      (2 ^ 16 - 1) < 256 ^ brimLayout.width (.index 0x04 (some 0x03)) ∧
      2 ^ 16 < 256 ^ brimLayout.width (.index 0x06 (some 0x05)) ∧
      2 ^ 14 * 2 ^ 2 + 0 < 256 ^ brimLayout.width (.coded .typeDefOrRef) ∧
      CodedIndex.typeDefOrRef.decode 0xFFFF = .error (.tagOutside 3) := by
  have bounded : ∀ count ∈ brimLayout.rowCounts, count < 2 ^ 30 := by decide
  rcases indexes_have_room brimLayout bounded .typeRef with ⟨-, scopes⟩
  rcases indexes_have_room brimLayout bounded .typeDef with ⟨lists, bases⟩
  refine ⟨bounded, by decide, ?_, by decide, ?_, ?_, ?_, ?_⟩
  · exact ((scopes .resolutionScope (by decide)).1 3 0x01 rfl (2 ^ 14 - 1) (by decide)).2
  · exact lists 0x04 (some 0x03) (by decide) _ (by decide)
  · exact lists 0x06 (some 0x05) (by decide) _ (by decide)
  · exact ((bases .typeDefOrRef (by decide)).1 0 0x02 rfl (2 ^ 14) (by decide)).1
  · exact (((bases .typeDefOrRef (by decide)).2 0xFFFF).1 _).2 (by decide)

end Layout

end WinrtLint.Archive
