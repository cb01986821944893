import WinrtLint.Proofs.Archive.MethodRanges

/-!
# Methods behind pointers

A list of methods may go through a table of pointers, which say in which rows
the methods stand.  Where the rows of the methods are put into another order,
and the pointers lead to them in the old one, nothing is to be seen of it: the
same positions are visited, each gives the same method or the same fault
(`Rearranged.methodEntry_eq`), and the same types are taken
(`Rearranged.judge_eq`).
-/

namespace WinrtLint.Archive

open WinrtLint.Outcome

namespace Metadata

/-! ## The same types -/

/-- Whether metadata have the rows of types and the heap of strings of others. -/
structure SameTypes (metadata other : Metadata) : Prop where
  typeRefs : metadata.tables.rowsOf .typeRef = other.tables.rowsOf .typeRef
  typeDefs : metadata.tables.rowsOf .typeDef = other.tables.rowsOf .typeDef
  strings : metadata.root.strings = other.root.strings

namespace SameTypes

variable {metadata other : Metadata}

theorem row?_typeDef (same : SameTypes metadata other) (number : Nat) :
    metadata.row? .typeDef number = other.row? .typeDef number := by
  rw [row?, row?, same.typeDefs]

theorem row?_typeRef (same : SameTypes metadata other) (number : Nat) :
    metadata.row? .typeRef number = other.row? .typeRef number := by
  rw [row?, row?, same.typeRefs]

theorem needString_eq (same : SameTypes metadata other) (offset : Nat) :
    metadata.needString offset = other.needString offset := by
  rw [needString, needString, same.strings]

theorem stringAtOffset_eq (same : SameTypes metadata other) (offset : Nat) :
    metadata.stringAtOffset offset = other.stringAtOffset offset := by
  rw [stringAtOffset, stringAtOffset, same.strings]

theorem typeEntry_eq (same : SameTypes metadata other) (number : Nat) :
    metadata.typeEntry number = other.typeEntry number := by
  simp only [typeEntry, Metadata.row, same.row?_typeDef, same.needString_eq]

theorem defineType_eq (same : SameTypes metadata other) (entry : TypeEntry) :
    metadata.defineType entry = other.defineType entry := by
  simp only [defineType, same.stringAtOffset_eq]

theorem typeName_eq (same : SameTypes metadata other) (handle : TypeHandle) :
    metadata.typeName handle = other.typeName handle := by
  simp only [typeName, rowName, string, same.row?_typeDef, same.row?_typeRef,
    same.needString_eq, same.stringAtOffset_eq]

theorem isRetained_eq (same : SameTypes metadata other) (entry : MethodEntry) :
    isRetained metadata entry = isRetained other entry := by
  rw [isRetained, isRetained, same.strings]

theorem defineMethod_eq
    (same : SameTypes metadata other)
    (entry : MethodEntry) :
    metadata.defineMethod entry = other.defineMethod entry := by
  rw [defineMethod, defineMethod, same.stringAtOffset_eq]

theorem retainedMember?_eq
    (same : SameTypes metadata other)
    {position : Nat}
    (entries : metadata.methodEntry position = other.methodEntry position) :
    retainedMember? metadata position = retainedMember? other position := by
  simp only [retainedMember?, entries, same.isRetained_eq, same.defineMethod_eq]

/-- A type is judged by its row, those to which it refers, the heap and its members. -/
theorem judge_eq
    (same : SameTypes metadata other)
    {number : Nat}
    (members : retainedMembers metadata number = retainedMembers other number) :
    judge metadata number = judge other number := by
  simp only [judge, same.typeEntry_eq, same.typeName_eq, same.defineType_eq, members]

end SameTypes

/-! ## Pointers -/

def pointers (metadata : Metadata) : List Nat :=
  (metadata.tables.rowsOf .methodPtr).toList.map (·.cell 0)

variable {data : Bytes} {metadata : Metadata}

theorem usesMethodPointers_eq (parsed : Metadata.parse data = .ok metadata) :
    metadata.usesMethodPointers = !metadata.pointers.isEmpty := by
  rw [usesMethodPointers, ← size_rowsOf parsed, pointers, ← Array.length_toList]
  cases (metadata.tables.rowsOf .methodPtr).toList <;> simp

theorem methodListLength_eq (parsed : Metadata.parse data = .ok metadata) :
    metadata.methodListLength =
      if metadata.pointers.isEmpty then (metadata.tables.rowsOf .methodDef).size
      else metadata.pointers.length := by
  rw [methodListLength, usesMethodPointers_eq parsed]
  by_cases none : metadata.pointers.isEmpty = true
  · rw [if_pos none, none, size_rowsOf parsed]
    rfl
  · rw [if_neg none, eq_false_of_ne_true none, pointers, List.length_map, Array.length_toList,
      size_rowsOf parsed]
    rfl

theorem methodNumber_of_pointer
    (parsed : Metadata.parse data = .ok metadata)
    {index number : Nat}
    (found : metadata.pointers[index]? = some number) :
    metadata.methodNumber (index + 1) = .ok number := by
  have filled : metadata.pointers.isEmpty = false := by
    rw [List.isEmpty_eq_false_iff]
    intro none
    rw [none] at found
    cases found
  rw [pointers, List.getElem?_map, Option.map_eq_some_iff] at found
  rcases found with ⟨row, there, rfl⟩
  rw [methodNumber, usesMethodPointers_eq parsed, filled, Bool.not_false, if_pos rfl,
    row_eq_ok.2 (row?_succ.trans there)]
  rfl

/--
Whether some metadata have the methods of others, which have no pointers, in rows in another
order, with pointers that lead to them in the old one.
-/
structure Rearranged
    (direct indirect : Metadata) :
    Prop extends SameTypes indirect direct where
  unpointed : direct.pointers = []
  permutation :
    indirect.pointers.Perm (List.range' 1 (direct.tables.rowsOf .methodDef).size)
  row_eq : ∀ {index number : Nat}, indirect.pointers[index]? = some number →
    indirect.row? .methodDef number = direct.row? .methodDef (index + 1)
  /-- Without a method there are no pointers, and the rows themselves are the methods. -/
  rows_empty : (direct.tables.rowsOf .methodDef).size = 0 →
    (indirect.tables.rowsOf .methodDef).size = 0

namespace Rearranged

variable {directData indirectData : Bytes} {direct indirect : Metadata}

theorem length_pointers (rearranged : Rearranged direct indirect) :
    indirect.pointers.length = (direct.tables.rowsOf .methodDef).size := by
  rw [rearranged.permutation.length_eq, List.length_range']

theorem methodListLength_direct
    (directRead : Metadata.parse directData = .ok direct)
    (rearranged : Rearranged direct indirect) :
    direct.methodListLength = (direct.tables.rowsOf .methodDef).size := by
  rw [methodListLength_eq directRead, rearranged.unpointed]
  rfl

theorem methodListLength_indirect
    (indirectRead : Metadata.parse indirectData = .ok indirect)
    (rearranged : Rearranged direct indirect) :
    indirect.methodListLength = (direct.tables.rowsOf .methodDef).size := by
  have length := rearranged.length_pointers
  rw [methodListLength_eq indirectRead]
  cases pointers : indirect.pointers with
  | nil =>
      rw [pointers, List.length_nil] at length
      rw [← length]
      exact rearranged.rows_empty length.symm
  | cons first rest =>
      rw [← length, pointers]
      rfl

variable
    (directRead : Metadata.parse directData = .ok direct)
    (indirectRead : Metadata.parse indirectData = .ok indirect)
    (rearranged : Rearranged direct indirect)

include directRead indirectRead rearranged

theorem methodPositions_eq (number : Nat) :
    indirect.methodPositions number = direct.methodPositions number := by
  simp only [methodPositions, rearranged.row?_typeDef, rearranged.typeDefs,
    rearranged.methodListLength_indirect indirectRead,
    rearranged.methodListLength_direct directRead]

/-- A position that is visited gives the same method or the same fault. -/
theorem methodEntry_eq
    {number position : Nat}
    (member : position ∈ direct.methodPositions number) :
    indirect.methodEntry position = direct.methodEntry position := by
  rcases position_of_mem member with ⟨least, greatest⟩
  rw [rearranged.methodListLength_direct directRead] at greatest
  rcases Nat.exists_eq_add_of_le' least with ⟨index, rfl⟩
  rcases exists_row least greatest with ⟨row, there⟩
  have within : index < indirect.pointers.length := by
    rw [rearranged.length_pointers]
    exact greatest
  have pointer := List.getElem?_eq_getElem within
  have undirected : direct.usesMethodPointers = false := by
    rw [usesMethodPointers_eq directRead, rearranged.unpointed]
    rfl
  rw [methodEntry_of_row (methodNumber_of_pointer indirectRead pointer)
      (row_eq_ok.2 ((rearranged.row_eq pointer).trans there)),
    methodEntry_of_row (methodNumber_of_direct undirected (index + 1)) (row_eq_ok.2 there),
    rearranged.needString_eq]

theorem methodAt_eq
    {number position : Nat}
    (member : position ∈ direct.methodPositions number) :
    indirect.methodAt position = direct.methodAt position := by
  rw [methodAt, methodAt, methodEntry_eq directRead indirectRead rearranged member]
  simp only [rearranged.defineMethod_eq]

theorem methods_eq (number : Nat) :
    indirect.methods number = direct.methods number := by
  rw [methods, methods, methodPositions_eq directRead indirectRead rearranged]
  exact mapM_congr fun _ member => methodAt_eq directRead indirectRead rearranged member

theorem judge_eq (number : Nat) :
    judge indirect number = judge direct number := by
  apply rearranged.toSameTypes.judge_eq
  have same : (direct.methodPositions number).mapM (retainedMember? indirect) =
      (direct.methodPositions number).mapM (retainedMember? direct) :=
    mapM_congr fun _ member =>
      rearranged.retainedMember?_eq (methodEntry_eq directRead indirectRead rearranged member)
  rw [retainedMembers, retainedMembers, methodPositions_eq directRead indirectRead rearranged,
    same]

end Rearranged

/-- Metadata whose types are judged alike give the same types and the same warnings. -/
theorem takeTypes_congr
    {metadata other : Metadata}
    (path : Files.Path)
    {numbers : List Nat}
    (same : ∀ number ∈ numbers, judge metadata number = judge other number) :
    takeTypes path metadata numbers = takeTypes path other numbers := by
  induction numbers with
  | nil => rfl
  | cons number rest induction =>
      rw [List.forall_mem_cons] at same
      rw [takeTypes, takeTypes, same.1, induction same.2]

/--
Pointers to methods are transparent: where the rows of the methods are put into another order and
pointers lead to them in the old one, the types have the same methods, the methods that cannot be
read are the same and cannot be read for the same reasons, and the same types are taken with the
same warnings.
-/
theorem pointers_transparent
    {directData indirectData : Bytes}
    {direct indirect : Metadata}
    (directRead : Metadata.parse directData = .ok direct)
    (indirectRead : Metadata.parse indirectData = .ok indirect)
    (rearranged : Rearranged direct indirect) :
    (∀ number,
      indirect.methodPositions number = direct.methodPositions number ∧
      (∀ position ∈ direct.methodPositions number,
        indirect.methodAt position = direct.methodAt position) ∧
      indirect.methods number = direct.methods number) ∧
    (∀ number, judge indirect number = judge direct number) ∧
    ∀ path, takeTypes path indirect (List.range' 1 indirect.typeCount) =
      takeTypes path direct (List.range' 1 direct.typeCount) := by
  refine ⟨?_, rearranged.judge_eq directRead indirectRead, ?_⟩
  · intro number
    exact ⟨rearranged.methodPositions_eq directRead indirectRead number,
      fun _ member => rearranged.methodAt_eq directRead indirectRead member,
      rearranged.methods_eq directRead indirectRead number⟩
  · intro path
    rw [typeCount, typeCount, rearranged.typeDefs]
    exact takeTypes_congr path fun number _ => rearranged.judge_eq directRead indirectRead number

/-- Two types, the second one with all methods but the first. -/
def directTables : Tables where
  layout := ⟨0, [0, 1, 2, 0, 0, 0, 3] ++ List.replicate 57 0⟩
  rows :=
    [#[], #[[0, 6, 1]], #[[1, 1, 0, 5, 1, 1], [1, 6, 1, 5, 1, 2]], #[], #[], #[],
      #[[0, 0, 0x16, 10, 0, 1], [0, 0, 0x1806, 14, 0, 1], [0, 0, 6, 10, 0, 1]]]

def cyclicTables : Tables where
  layout := ⟨0, [0, 1, 2, 0, 0, 3, 3] ++ List.replicate 57 0⟩
  rows :=
    [#[], #[[0, 6, 1]], #[[1, 1, 0, 5, 1, 1], [1, 6, 1, 5, 1, 2]], #[], #[],
      #[[2], [3], [1]],
      #[[0, 0, 6, 10, 0, 1], [0, 0, 0x16, 10, 0, 1], [0, 0, 0x1806, 14, 0, 1]]]

/-- The names `Base`, `Kit`, `Run` and `.ctor`. -/
def namesHeap : List UInt8 :=
  [0, 66, 97, 115, 101, 0, 75, 105, 116, 0, 82, 117, 110, 0, 46, 99, 116, 111, 114, 0]

theorem cyclicTables_rearranged :
    Rearranged (ofTables directTables 0x46 namesHeap) (ofTables cyclicTables 0x66 namesHeap) where
  typeRefs := rfl
  typeDefs := rfl
  strings := rfl
  unpointed := rfl
  permutation := by decide
  row_eq := by
    intro index number found
    match index with
    | 0 | 1 | 2 =>
        cases found
        rfl
    | index + 3 => cases found
  rows_empty := fun none => absurd none (by decide)

theorem pointers_transparent_cyclicTables :
    let direct := ofTables directTables 0x46 namesHeap
    let indirect := ofTables cyclicTables 0x66 namesHeap
    indirect.methods 2 = direct.methods 2 ∧
      direct.methods 2 = .ok [⟨".ctor", 0x1806⟩, ⟨"Run", 6⟩] ∧
      takeTypes ⟨"", ["Kit.winmd"]⟩ indirect [1, 2] =
        ([], .ok [⟨"", "Base", "Base.Kit", false, ["Run"]⟩,
          ⟨"Base", "Kit", "Base.Kit", false, [".ctor"]⟩]) := by
  intro direct indirect
  have directRead : Metadata.parse (encode directTables 0x46 namesHeap).toArray = .ok direct :=
    parse_encode (by decide +kernel) (by decide +kernel)
  have indirectRead : Metadata.parse (encode cyclicTables 0x66 namesHeap).toArray = .ok indirect :=
    parse_encode (by decide +kernel) (by decide +kernel)
  rcases pointers_transparent directRead indirectRead cyclicTables_rearranged with
    ⟨same, -, taken⟩
  refine ⟨(same 2).2.2, by decide +kernel, (taken ⟨"", ["Kit.winmd"]⟩).trans ?_⟩
  decide +kernel

end Metadata

end WinrtLint.Archive
