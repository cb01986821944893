import WinrtLint.Archive.Tables
import WinrtLint.Denylist.Member
import WinrtLint.Symbol

/-!
# Types and methods of the metadata

Rows are numbered from one.  A type owns the methods from its own first one up
to the first one of the next type.
-/

namespace WinrtLint.Archive

/-- What a reference to a type can refer to. -/
inductive HandleKind where
  | typeDefinition
  | typeReference
  | typeSpecification
  deriving DecidableEq, Repr

/-- The name of a kind of handle. -/
def HandleKind.name : HandleKind → String
  | .typeDefinition => "TYPE_DEFINITION"
  | .typeReference => "TYPE_REFERENCE"
  | .typeSpecification => "TYPE_SPECIFICATION"

/-- A reference to a type. -/
structure TypeHandle where
  kind : HandleKind
  row : Nat
  deriving DecidableEq, Repr

/-- Whether a handle refers to no type. -/
def TypeHandle.isNil (handle : TypeHandle) : Bool :=
  handle.row = 0

/-- The attributes of a type, a bit or a few for each. -/
abbrev TypeFlags : Type :=
  Nat

/-- Whether no type can derive from a type of the given attributes. -/
def TypeFlags.isSealed (flags : TypeFlags) : Bool :=
  flags.testBit 8

/-- A type that the metadata defines. -/
structure TypeDefinition where
  row : Nat
  space : String
  name : String
  flags : TypeFlags
  base : TypeHandle
  deriving DecidableEq, Repr

namespace TypeDefinition

/-- The full name of the type. -/
def qualifiedName (type : TypeDefinition) : String :=
  qualify type.space type.name

/-- Whether no type can derive from the type. -/
def isSealed (type : TypeDefinition) : Bool :=
  type.flags.isSealed

end TypeDefinition

/-- The attributes of a method, a bit or a few for each. -/
abbrev MethodFlags : Type :=
  Nat

namespace MethodFlags

/-- Whether the method is open to everyone. -/
def isPublic (flags : MethodFlags) : Bool :=
  flags % 8 = 6

/-- Whether the method belongs to the type itself. -/
def isStatic (flags : MethodFlags) : Bool :=
  flags.testBit 4

/-- Whether the name has a meaning, as those of accessors and operators do. -/
def isSpecialName (flags : MethodFlags) : Bool :=
  flags.testBit 11

/-- Whether the name has a meaning for the runtime. -/
def isRuntimeSpecialName (flags : MethodFlags) : Bool :=
  flags.testBit 12

/-- Whether the method is static and its name has no meaning of its own. -/
def isPlainStatic (flags : MethodFlags) : Bool :=
  flags.isStatic && !flags.isSpecialName && !flags.isRuntimeSpecialName

end MethodFlags

/-- A method that the metadata defines. -/
structure MethodDefinition where
  name : String
  flags : MethodFlags
  deriving DecidableEq, Repr

namespace MethodDefinition

/-- Whether the method is a constructor. -/
def isConstructor (method : MethodDefinition) : Bool :=
  method.name = constructorName

/-- Whether a call of the method can be told from its name: a constructor, or a plain
static method, that is open to everyone. -/
def isRetained (method : MethodDefinition) : Bool :=
  method.flags.isPublic && (method.isConstructor || method.flags.isPlainStatic)

end MethodDefinition

/-- Why a handle has no name. -/
inductive NameError where
  /-- Type specifications have no simple name. -/
  | specification (row : Nat)
  /-- The row is not in its table. -/
  | missingRow (kind : HandleKind) (row : Nat)
  /-- The row is there and its name cannot be read. -/
  | format (fault : FormatError)
  deriving DecidableEq, Repr

/-- The wording of a missing name. -/
def NameError.message : NameError → String
  | .specification row => "TypeSpec row " ++ toString row ++ " has no simple name"
  | .missingRow kind row => kind.name ++ " row " ++ toString row ++ " not found"
  | .format fault => fault.message

/-- Metadata whose root and tables have been read. -/
structure Metadata where
  root : Root
  tables : Tables

namespace Metadata

/-- Read the root and the tables of some metadata. -/
def parse (data : Bytes) : Except FormatError Metadata := do
  let root ← Root.parse data
  let stream ← root.tableStream
  let tables ← Tables.parse stream
  return ⟨root, tables⟩

/-- Where the string that begins at an offset within a heap ends: before a zero byte. -/
def stringEnd (heap : Bytes) (offset : Nat) : Nat :=
  (heap.zeroFrom? offset).getD heap.size

/-- The string that begins at an offset within a heap. -/
def stringFrom (heap : Bytes) (offset : Nat) : String :=
  Text.Utf8.decodeReplacing (heap.extract offset (stringEnd heap offset)).toList

/-- Whether the string that begins at an offset within a heap is a given one. -/
def hasStringAt (heap : Bytes) (text : String) (offset : Nat) : Bool :=
  let bytes := (Text.Utf8.encode text).toArray
  heap.slice offset bytes.size = bytes && heap.byteAt (offset + bytes.size) = 0

/-- Make sure that an offset is one of a string of the heap. -/
def needString (metadata : Metadata) (offset : Nat) : Except FormatError Unit :=
  if offset ≠ 0 && metadata.root.strings.size ≤ offset then .error (.stringOutside offset)
  else .ok ()

/-- The string at an offset of the heap; the offset zero means no string. -/
def stringAtOffset (metadata : Metadata) (offset : Nat) : String :=
  if offset = 0 then "" else stringFrom metadata.root.strings offset

/-- The string at an offset, which has to be one of the heap. -/
def string (metadata : Metadata) (offset : Nat) :
    Except FormatError String := do
  metadata.needString offset
  return metadata.stringAtOffset offset

/--
The string at an offset that may be negative: such an offset counts from the
end of the heap, and one that reaches before the heap means its first byte.
-/
def stringAt (metadata : Metadata) : Int → Except FormatError String
  | .ofNat offset => metadata.string offset
  | .negSucc before =>
      let heap := metadata.root.strings
      .ok (stringFrom heap (heap.size - (before + 1)))

/-- The row of a number, if a table has it. -/
def row? (metadata : Metadata) (table : Table) (number : Nat) : Option Row :=
  if number = 0 then none else (metadata.tables.rowsOf table)[number - 1]?

/-- The row of a number, which its table has to have. -/
def row (metadata : Metadata) (table : Table) (number : Nat) :
    Except FormatError Row :=
  match metadata.row? table number with
  | some row => .ok row
  | none => .error (.rowOutside number table.number)

/-- How many types the metadata defines. -/
def typeCount (metadata : Metadata) : Nat :=
  (metadata.tables.rowsOf .typeDef).size

/-- The handle in the base column of a type definition. -/
def handle (value : Nat) : Except FormatError TypeHandle := do
  let (table, row) ← CodedIndex.typeDefOrRef.decode value
  let kind :=
    if table = Table.typeDef.number then HandleKind.typeDefinition
    else if table = Table.typeRef.number then HandleKind.typeReference
    else HandleKind.typeSpecification
  return ⟨kind, row⟩

/-- A type whose names stand in the heap and are not read yet. -/
structure TypeEntry where
  row : Nat
  spaceOffset : Nat
  nameOffset : Nat
  flags : TypeFlags
  base : TypeHandle

/-- The type of a row of type definitions, with its names unread. -/
def typeEntry (metadata : Metadata) (number : Nat) :
    Except FormatError TypeEntry := do
  let row ← metadata.row .typeDef number
  let base ← handle (row.cell 3)
  metadata.needString (row.cell 2)
  metadata.needString (row.cell 1)
  return {
    row := number, spaceOffset := row.cell 2, nameOffset := row.cell 1,
    flags := row.cell 0, base }

/-- The type of an entry. -/
def defineType (metadata : Metadata) (entry : TypeEntry) : TypeDefinition where
  row := entry.row
  space := metadata.stringAtOffset entry.spaceOffset
  name := metadata.stringAtOffset entry.nameOffset
  flags := entry.flags
  base := entry.base

/-- The type that a row of a number defines. -/
def typeDefinition (metadata : Metadata) (number : Nat) :
    Except FormatError TypeDefinition := do
  return metadata.defineType (← metadata.typeEntry number)

/-- The full name of the type in a row of type definitions or references. -/
def rowName (metadata : Metadata) (space name : Nat) :
    Except NameError String :=
  match metadata.string space with
  | .error fault => .error (.format fault)
  | .ok space =>
      match metadata.string name with
      | .error fault => .error (.format fault)
      | .ok name => .ok (qualify space name)

/-- The full name of the type to which a handle refers. -/
def typeName (metadata : Metadata) (handle : TypeHandle) :
    Except NameError String :=
  match handle.kind with
  | .typeSpecification => .error (.specification handle.row)
  | .typeDefinition =>
      match metadata.row? .typeDef handle.row with
      | none => .error (.missingRow .typeDefinition handle.row)
      | some row => metadata.rowName (row.cell 2) (row.cell 1)
  | .typeReference =>
      match metadata.row? .typeRef handle.row with
      | none => .error (.missingRow .typeReference handle.row)
      | some row => metadata.rowName (row.cell 2) (row.cell 1)

/-- Whether the lists of methods go through the pointer table. -/
def usesMethodPointers (metadata : Metadata) : Bool :=
  metadata.tables.layout.count Table.methodPtr.number ≠ 0

/-- How many positions the lists of methods have. -/
def methodListLength (metadata : Metadata) : Nat :=
  metadata.tables.layout.count <|
    if metadata.usesMethodPointers then Table.methodPtr.number
    else Table.methodDef.number

/-- The first position in the lists of methods that belongs to a type's row. -/
def firstMethod (row : Row) : Nat :=
  row.cell 5

/-- The positions in the lists of methods that belong to the type in a row. -/
def methodPositions (metadata : Metadata) (number : Nat) : List Nat :=
  let types := metadata.tables.rowsOf .typeDef
  let behind := metadata.methodListLength + 1
  match metadata.row? .typeDef number with
  | none => []
  | some row =>
      let start := max (firstMethod row) 1
      let stop :=
        match types[number]? with
        | some next => min (firstMethod next) behind
        | none => behind
      List.range' start (stop - start)

/-- A method whose name stands in the heap and is not read yet. -/
structure MethodEntry where
  nameOffset : Nat
  flags : MethodFlags

/-- The method at a position in the lists of methods, with its name unread. -/
def methodEntry (metadata : Metadata) (position : Nat) :
    Except FormatError MethodEntry := do
  let number ←
    if metadata.usesMethodPointers then do
      let pointer ← metadata.row .methodPtr position
      pure (pointer.cell 0)
    else pure position
  let row ← metadata.row .methodDef number
  metadata.needString (row.cell 3)
  return ⟨row.cell 3, row.cell 2⟩

/-- The method of an entry. -/
def defineMethod (metadata : Metadata) (entry : MethodEntry) :
    MethodDefinition :=
  ⟨metadata.stringAtOffset entry.nameOffset, entry.flags⟩

/-- Whether a call of the method of an entry can be told from its name. -/
def isRetained (metadata : Metadata) (entry : MethodEntry) : Bool :=
  entry.flags.isPublic &&
    (entry.flags.isPlainStatic ||
      (entry.nameOffset ≠ 0 &&
        hasStringAt metadata.root.strings constructorName entry.nameOffset))

/-- The method at a position in the lists of methods. -/
def methodAt (metadata : Metadata) (position : Nat) :
    Except FormatError MethodDefinition := do
  return metadata.defineMethod (← metadata.methodEntry position)

/-- The methods of the type in a row. -/
def methods (metadata : Metadata) (number : Nat) :
    Except FormatError (List MethodDefinition) :=
  (metadata.methodPositions number).mapM metadata.methodAt

end Metadata

end WinrtLint.Archive
