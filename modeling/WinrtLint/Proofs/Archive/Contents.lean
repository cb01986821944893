import WinrtLint.Proofs.Archive.Reading
import WinrtLint.Proofs.Archive.StringHeap

/-!
# What an archive is about

The contents of an archive are the types to which it refers and those that it
defines, each with its methods.  What is to be retained of them is said here
without tables, rows or offsets (`Contents.retained`).  Metadata describe
contents when their rows stand for them one by one (`Describes`), and then
exactly what is to be retained is taken from them (`typesIn_of_describes`).
-/

namespace WinrtLint.Archive

open WinrtLint.Outcome

/-! ## Contents -/

/-- The name of a type to which an archive refers. -/
structure TypeName where
  space : String
  name : String
  deriving DecidableEq, Repr

/-- A type that an archive defines, with its methods. -/
structure TypeContents where
  space : String
  name : String
  flags : TypeFlags
  /-- A reference to the base type: the number of its row and a tag of two bits. -/
  base : Nat
  methods : List MethodDefinition
  deriving DecidableEq, Repr

/-- What an archive is about. -/
structure Contents where
  references : List TypeName
  types : List TypeContents
  deriving DecidableEq, Repr

namespace Contents

/-- The methods of all types, in order. -/
def methods (contents : Contents) : List MethodDefinition :=
  contents.types.flatMap (·.methods)

/-- All names of an archive. -/
def names (contents : Contents) : List String :=
  contents.references.flatMap (fun type => [type.space, type.name]) ++
    contents.types.flatMap fun type => type.space :: type.name :: type.methods.map (·.name)

/-- The methods of a type stand among those of all types, behind those of the types before. -/
theorem methods_eq
    {contents : Contents}
    {index : Nat}
    {type : TypeContents}
    (found : contents.types[index]? = some type) :
    contents.methods =
      (contents.types.take index).flatMap (·.methods) ++ type.methods ++
        (contents.types.drop (index + 1)).flatMap (·.methods) := by
  rcases List.getElem?_eq_some_iff.1 found with ⟨inside, rfl⟩
  rw [methods, ← List.flatMap_singleton (·.methods) contents.types[index], ← List.flatMap_append,
    ← List.flatMap_append, List.append_assoc, List.singleton_append, ← List.drop_eq_getElem_cons,
    List.take_append_drop]

/-- The full name of the base type, if the reference to it leads to a type of the archive or
to one to which the archive refers. -/
def baseName? (contents : Contents) (base : Nat) : Option String :=
  if base / 4 = 0 then none
  else if base % 4 = 0 then
    contents.types[base / 4 - 1]?.map fun type => qualify type.space type.name
  else if base % 4 = 1 then
    contents.references[base / 4 - 1]?.map fun type => qualify type.space type.name
  else none

/-- What is to be retained of a type: nothing unless it has a base type with a name, and this
is none of those of value types and delegates. -/
def retained? (contents : Contents) (type : TypeContents) :
    Option RetainedType :=
  match contents.baseName? type.base with
  | none => none
  | some baseType =>
      if baseType ∈ excludedBaseTypes then none
      else some {
        space := type.space, name := type.name, baseType
        isSealed := type.flags.isSealed
        members := (type.methods.filter (·.isRetained)).map (·.name) }

/-- What is to be retained of all types, in order. -/
def retained (contents : Contents) : List RetainedType :=
  contents.types.filterMap contents.retained?

end Contents

/-! ## Rows -/

/-- Whether rows stand for items one by one, given what is before each. -/
structure StandFor
    {Item : Type}
    (related : List Item → Item → Row → Prop)
    (items : List Item)
    (rows : List Row) : Prop where
  length_eq : rows.length = items.length
  each : ∀ {index : Nat} {item : Item}, items[index]? = some item →
    ∃ row, rows[index]? = some row ∧ related (items.take index) item row

theorem StandFor.getElem?_eq_none
    {Item : Type}
    {related : List Item → Item → Row → Prop}
    {items : List Item}
    {rows : List Row}
    (stand : StandFor related items rows)
    {index : Nat}
    (missing : items[index]? = none) :
    rows[index]? = none := by
  rw [List.getElem?_eq_none_iff] at missing ⊢
  rwa [stand.length_eq]

/-- Whether a row refers to a type, given how its offsets are read. -/
def ReferenceRow
    (reads : Nat → String → Prop)
    (_ : List TypeName)
    (type : TypeName)
    (row : Row) :
    Prop :=
  reads (row.cell 1) type.name ∧ reads (row.cell 2) type.space

/-- Whether a row defines a type, given how its offsets are read: its methods begin behind
those of the types before. -/
structure TypeRow
    (reads : Nat → String → Prop)
    (before : List TypeContents)
    (type : TypeContents)
    (row : Row) : Prop where
  flags : row.cell 0 = type.flags
  name : reads (row.cell 1) type.name
  space : reads (row.cell 2) type.space
  base : row.cell 3 = type.base
  firstMethod : row.cell 5 = (before.flatMap (·.methods)).length + 1

/-- Whether a row defines a method, given how its offsets are read. -/
def MethodRow
    (reads : Nat → String → Prop)
    (_ : List MethodDefinition)
    (method : MethodDefinition)
    (row : Row) :
    Prop :=
  row.cell 2 = method.flags ∧ reads (row.cell 3) method.name

namespace Metadata

/-- Whether the string at an offset of the heap is a given one. -/
def Reads (metadata : Metadata) (offset : Nat) (text : String) : Prop :=
  metadata.string offset = .ok text

/-- Whether the rows of metadata stand for contents. -/
structure Describes (metadata : Metadata) (contents : Contents) : Prop where
  references : StandFor (ReferenceRow metadata.Reads) contents.references
    (metadata.tables.rowsOf .typeRef).toList
  types : StandFor (TypeRow metadata.Reads) contents.types
    (metadata.tables.rowsOf .typeDef).toList
  methodListLength : metadata.methodListLength = contents.methods.length
  methods : ∀ {index : Nat} {method : MethodDefinition},
    contents.methods[index]? = some method → metadata.methodAt (index + 1) = .ok method

theorem string_eq_ok {metadata : Metadata} {offset : Nat} {text : String} :
    metadata.string offset = .ok text ↔
      metadata.needString offset = .ok () ∧ metadata.stringAtOffset offset = text := by
  rw [string, bind_eq_ok]
  constructor
  · rintro ⟨⟨⟩, there, same⟩
    exact ⟨there, pure_eq_ok.1 same⟩
  · rintro ⟨there, same⟩
    exact ⟨(), there, pure_eq_ok.2 same⟩

theorem row?_succ {metadata : Metadata} {table : Table} {index : Nat} :
    metadata.row? table (index + 1) = (metadata.tables.rowsOf table).toList[index]? := by
  rw [row?, if_neg (Nat.succ_ne_zero index), Nat.add_sub_cancel, Array.getElem?_toList]

theorem row_eq_ok
    {metadata : Metadata}
    {table : Table}
    {number : Nat}
    {row : Row} :
    metadata.row table number = .ok row ↔ metadata.row? table number = some row := by
  rw [Metadata.row]
  cases metadata.row? table number <;> simp

/-! ## Methods of a type -/

variable
    {metadata : Metadata}
    {contents : Contents}
    {index : Nat}
    {type : TypeContents}

/-- The positions that belong to a type are those of its methods. -/
theorem Describes.methodPositions
    (describes : metadata.Describes contents)
    (found : contents.types[index]? = some type) :
    metadata.methodPositions (index + 1) =
      List.range' (((contents.types.take index).flatMap (·.methods)).length + 1)
        type.methods.length := by
  rcases describes.types.each found with ⟨row, there, defines⟩
  have total := congrArg List.length (Contents.methods_eq found)
  simp only [List.length_append] at total
  have start := Nat.max_eq_left (Nat.le_add_left 1
    ((contents.types.take index).flatMap (·.methods)).length)
  rw [Metadata.methodPositions, row?_succ, there]
  simp only [firstMethod, defines.firstMethod, describes.methodListLength, start]
  rw [← Array.getElem?_toList]
  cases next : contents.types[index + 1]? with
  | none =>
      -- The last type has all the methods that are left.
      rw [List.drop_eq_nil_of_le (List.getElem?_eq_none_iff.1 next)] at total
      simp only [List.flatMap_nil, List.length_nil] at total
      simp only [describes.types.getElem?_eq_none next, total, Nat.add_zero,
        Nat.add_sub_add_right, Nat.add_sub_cancel_left]
  | some other =>
      rcases describes.types.each next with ⟨nextRow, nextThere, nextDefines⟩
      have stop := nextDefines.firstMethod
      rw [List.take_add_one, found, Option.toList_some, List.flatMap_append,
        List.flatMap_singleton, List.length_append] at stop
      have bounded : ((contents.types.take index).flatMap (·.methods)).length +
          type.methods.length + 1 ≤ contents.methods.length + 1 := by
        omega
      simp only [nextThere, stop, Nat.min_eq_left bounded, Nat.add_sub_add_right,
        Nat.add_sub_cancel_left]

theorem Describes.methods_eq
    (describes : metadata.Describes contents)
    (found : contents.types[index]? = some type) :
    metadata.methods (index + 1) = .ok type.methods := by
  have each : ∀ {place : Nat} {method : MethodDefinition}, type.methods[place]? = some method →
      ∃ result, metadata.methodAt
        (((contents.types.take index).flatMap (·.methods)).length + 1 + place) = .ok result ∧
          method = result := by
    intro place method there
    refine ⟨method, ?_, rfl⟩
    have inside := (List.getElem?_eq_some_iff.1 there).1
    rw [Nat.add_right_comm]
    apply describes.methods
    rw [Contents.methods_eq found, List.append_assoc, List.getElem?_append_right (by omega),
      Nat.add_sub_cancel_left, List.getElem?_append_left inside, there]
  rcases mapM_range' each with ⟨results, steps, same⟩
  rw [List.forall₂_eq_eq_eq] at same
  rw [Metadata.methods, describes.methodPositions found, steps, ← same]

/-! ## The base type -/

/-- A reference to a base type is a handle unless its tag is the one without a table. -/
theorem handle_eq_ok {base : Nat} (tagged : base % 4 ≠ 3) :
    handle base = .ok ⟨
      if base % 4 = 0 then .typeDefinition
      else if base % 4 = 1 then .typeReference
      else .typeSpecification, base / 4⟩ := by
  have tags : base % 4 = 0 ∨ base % 4 = 1 ∨ base % 4 = 2 := by omega
  rcases tags with tag | tag | tag <;>
    simp [handle, CodedIndex.decode, CodedIndex.typeDefOrRef, tag, Table.number,
      Nat.shiftRight_eq_div_pow, pure, Except.pure]

theorem rowName_eq_ok
    {metadata : Metadata}
    {space name : Nat}
    {spaceText nameText : String}
    (spaceRead : metadata.Reads space spaceText)
    (nameRead : metadata.Reads name nameText) :
    metadata.rowName space name = .ok (qualify spaceText nameText) := by
  rw [Reads] at spaceRead nameRead
  rw [rowName, spaceRead]
  simp only [nameRead]

/-- The base type of a name is found, and any other has no name. -/
theorem Describes.typeName_eq
    (describes : metadata.Describes contents)
    {base : Nat}
    (leads : base / 4 ≠ 0)
    {handle : TypeHandle}
    (decoded : Metadata.handle base = .ok handle)
    (tagged : base % 4 ≠ 3) :
    match contents.baseName? base with
    | some name => metadata.typeName handle = .ok name
    | none => ∃ cause, metadata.typeName handle = .error cause ∧
        ∀ fault, cause ≠ .format fault := by
  rw [handle_eq_ok tagged] at decoded
  cases decoded
  rcases Nat.exists_eq_add_one_of_ne_zero leads with ⟨index, number⟩
  rw [Contents.baseName?, if_neg leads, number, Nat.add_sub_cancel]
  by_cases definition : base % 4 = 0
  · simp only [definition, if_true]
    cases found : contents.types[index]? with
    | none =>
        refine ⟨.missingRow .typeDefinition (index + 1), ?_, by simp⟩
        simp only [typeName, row?_succ, describes.types.getElem?_eq_none found]
    | some type =>
        rcases describes.types.each found with ⟨row, there, defines⟩
        simp only [typeName, row?_succ, there, Option.map_some]
        exact rowName_eq_ok defines.space defines.name
  · by_cases reference : base % 4 = 1
    · simp only [reference, if_true, if_false, Nat.one_ne_zero]
      cases found : contents.references[index]? with
      | none =>
          refine ⟨.missingRow .typeReference (index + 1), ?_, by simp⟩
          simp only [typeName, row?_succ, describes.references.getElem?_eq_none found]
      | some type =>
          rcases describes.references.each found with ⟨row, there, refers⟩
          simp only [typeName, row?_succ, there, Option.map_some]
          exact rowName_eq_ok refers.2 refers.1
    · simp only [definition, reference, if_false]
      exact ⟨.specification (index + 1), rfl, by simp⟩

/-! ## Types -/

theorem Describes.typeEntry_eq
    (describes : metadata.Describes contents)
    (found : contents.types[index]? = some type)
    (tagged : type.base % 4 ≠ 3) :
    ∃ entry, metadata.typeEntry (index + 1) = .ok entry ∧
      Metadata.handle type.base = .ok entry.base ∧ entry.base.row = type.base / 4 ∧
      entry.flags = type.flags ∧
      metadata.stringAtOffset entry.spaceOffset = type.space ∧
      metadata.stringAtOffset entry.nameOffset = type.name := by
  rcases describes.types.each found with ⟨row, there, defines⟩
  have rowFound := row_eq_ok.2 (row?_succ.trans there)
  have decoded := handle_eq_ok tagged
  rcases string_eq_ok.1 defines.space with ⟨spaceThere, space⟩
  rcases string_eq_ok.1 defines.name with ⟨nameThere, name⟩
  refine ⟨⟨index + 1, row.cell 2, row.cell 1, row.cell 0, _⟩, ?_, decoded, rfl,
    defines.flags, space, name⟩
  rw [typeEntry, rowFound, ok_bind, defines.base, decoded, ok_bind, spaceThere, ok_bind,
    nameThere, ok_bind]
  rfl

/-- A type that is described is judged by what is to be retained of it. -/
theorem Describes.judge_eq
    (describes : metadata.Describes contents)
    (found : contents.types[index]? = some type)
    (tagged : type.base % 4 ≠ 3) :
    ∃ verdict, judge metadata (index + 1) = .ok verdict ∧
      contents.retained? type = verdict.type? := by
  rcases describes.typeEntry_eq found tagged with
    ⟨entry, entryRead, decoded, row, flags, space, name⟩
  rw [judge, entryRead, ok_bind, Contents.retained?]
  by_cases nil : type.base / 4 = 0
  · have isNil : entry.base.isNil = true := by
      rw [TypeHandle.isNil, row, nil]
      rfl
    refine ⟨.passed, by rw [isNil, if_pos rfl]; rfl, ?_⟩
    rw [Contents.baseName?, if_pos nil]
    rfl
  · have isNil : entry.base.isNil = false := by
      rw [TypeHandle.isNil, row]
      exact decide_eq_false nil
    have named := describes.typeName_eq nil decoded tagged
    rw [isNil, if_neg Bool.false_ne_true]
    cases baseName : contents.baseName? type.base with
    | none =>
        rw [baseName] at named
        rcases named with ⟨cause, failed, noFault⟩
        refine ⟨.unnamedBase (metadata.defineType entry) cause, ?_, rfl⟩
        rw [failed]
        cases cause with
        | format fault => exact absurd rfl (noFault fault)
        | specification row => rfl
        | missingRow kind row => rfl
    | some baseType =>
        rw [baseName] at named
        dsimp only at named ⊢
        rw [named]
        dsimp only
        by_cases excluded : baseType ∈ excludedBaseTypes
        · rw [if_pos (List.contains_iff_mem.2 excluded), if_pos excluded]
          exact ⟨.passed, rfl, rfl⟩
        · rw [if_neg (mt List.contains_iff_mem.1 excluded), if_neg excluded,
            retainedMembers_eq, describes.methods_eq found]
          refine ⟨_, rfl, ?_⟩
          simp only [Verdict.type?, defineType, TypeDefinition.isSealed, space, name, flags]

theorem filterMap_eq_of_forall₂
    {Item Other Result : Type}
    {choose : Item → Option Result}
    {chooseOther : Other → Option Result}
    {items : List Item}
    {others : List Other}
    (same : List.Forall₂ (fun item other => choose item = chooseOther other) items others) :
    items.filterMap choose = others.filterMap chooseOther := by
  induction same with
  | nil => rfl
  | cons first _ induction => rw [List.filterMap_cons, List.filterMap_cons, first, induction]

/-- What is taken from metadata that describe contents is what is to be retained of them. -/
theorem Describes.typesIn_eq
    (describes : metadata.Describes contents)
    (tagged : ∀ type ∈ contents.types, type.base % 4 ≠ 3) :
    typesIn metadata = .ok contents.retained := by
  have each : ∀ {index : Nat} {type : TypeContents}, contents.types[index]? = some type →
      ∃ verdict, judge metadata (1 + index) = .ok verdict ∧
        contents.retained? type = verdict.type? := by
    intro index type found
    rw [Nat.add_comm]
    exact describes.judge_eq found (tagged type (List.mem_of_getElem? found))
  rcases mapM_range' each with ⟨verdicts, judged, same⟩
  have count : metadata.typeCount = contents.types.length := by
    rw [typeCount, ← Array.length_toList, describes.types.length_eq]
  rw [typesIn, count, judged, ok_bind, Contents.retained, filterMap_eq_of_forall₂ same]
  rfl

end Metadata

end WinrtLint.Archive
