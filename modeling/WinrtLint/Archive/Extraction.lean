import WinrtLint.Archive.Image
import WinrtLint.Archive.Metadata
import WinrtLint.Catalog.Basic
import WinrtLint.Denylist.Listing
import WinrtLint.Warning

/-!
# Extraction

From an archive come its concrete reference types, each with the names of its
public constructors and plain public static methods: the calls that can be
told from a name alone.  An archive that cannot be read in full gives nothing
and is noted as skipped.
-/

namespace WinrtLint

/-- A type taken from an archive. -/
structure RetainedType where
  /-- The namespace, empty at the top. -/
  space : String
  name : String
  /-- Qualified name of the base type. -/
  baseType : String
  isSealed : Bool := false
  /-- The retained members by name, overloads repeated. -/
  members : List String := []
  deriving DecidableEq, Repr

/-- The full name of a type. -/
def RetainedType.qualifiedName (type : RetainedType) : String :=
  qualify type.space type.name

namespace Archive

/-- The base types of value types and delegates, which are left out. -/
def excludedBaseTypes : List String :=
  ["System.ValueType", "System.Enum", "System.Delegate", "System.MulticastDelegate"]

/-- The part of the program that warns about archives. -/
def warningSource : String :=
  "MetadataExtractor"

/-- What becomes of a type definition. -/
inductive Verdict where
  /-- It is taken. -/
  | kept (type : RetainedType)
  /-- It is of a kind that is left out. -/
  | passed
  /-- Its base type has no name, and it is left out with a warning. -/
  | unnamedBase (type : TypeDefinition) (cause : NameError)

/-- The retained member at a position in the lists of methods; other names stay unread. -/
def retainedMember? (metadata : Metadata) (position : Nat) :
    Except FormatError (Option String) := do
  let entry ← metadata.methodEntry position
  return if metadata.isRetained entry then some (metadata.defineMethod entry).name else none

/-- The retained members of the type in a row. -/
def retainedMembers (metadata : Metadata) (row : Nat) :
    Except FormatError (List String) := do
  let members ← (metadata.methodPositions row).mapM (retainedMember? metadata)
  return members.filterMap id

/-- Judge the type in a row. -/
def judge (metadata : Metadata) (row : Nat) : Except FormatError Verdict := do
  let entry ← metadata.typeEntry row
  if entry.base.isNil then return .passed
  match metadata.typeName entry.base with
  | .error (.format fault) => throw fault
  | .error cause => return .unnamedBase (metadata.defineType entry) cause
  | .ok baseType =>
      if excludedBaseTypes.contains baseType then return .passed
      let type := metadata.defineType entry
      let members ← retainedMembers metadata row
      return .kept {
        space := type.space, name := type.name, baseType, isSealed := type.isSealed,
        members }

/-- The warning about a type that is left out because its base type has no name. -/
def unnamedBaseWarning
    (path : Files.Path)
    (type : TypeDefinition)
    (cause : NameError) :
    Warning :=
  ⟨warningSource, path.text ++ ": skipping " ++ type.qualifiedName ++ ": " ++ cause.message⟩

/--
Take the types in some rows.  The warnings given on the way stand even where a
later row makes the whole archive unreadable.
-/
def takeTypes (path : Files.Path) (metadata : Metadata) :
    List Nat → List Warning × Except FormatError (List RetainedType)
  | [] => ([], .ok [])
  | row :: rest =>
      match judge metadata row with
      | .error fault => ([], .error fault)
      | .ok .passed => takeTypes path metadata rest
      | .ok (.unnamedBase type cause) =>
          let (warnings, types) := takeTypes path metadata rest
          (unnamedBaseWarning path type cause :: warnings, types)
      | .ok (.kept type) =>
          let (warnings, types) := takeTypes path metadata rest
          (warnings, types.map (type :: ·))

/-- What reading an archive yields. -/
structure Reading where
  warnings : List Warning
  /-- The types taken; `none` if the archive is skipped. -/
  types : Option (List RetainedType)

/-- The warning about an archive whose bytes are malformed. -/
def malformedWarning (path : Files.Path) (fault : FormatError) : Warning :=
  ⟨warningSource, "malformed metadata in " ++ path.text ++ ": " ++ fault.message⟩

/-- Read the bytes of an archive. -/
def readBytes (path : Files.Path) (data : Bytes) : Reading :=
  let located := do
    let image ← Image.parse data
    image.metadata
  match located with
  | .error fault => ⟨[malformedWarning path fault], none⟩
  | .ok none =>
      ⟨[⟨warningSource, path.text ++ " carries no metadata, skipping"⟩], none⟩
  | .ok (some blob) =>
      match Metadata.parse blob with
      | .error fault => ⟨[malformedWarning path fault], none⟩
      | .ok metadata =>
          match takeTypes path metadata (List.range' 1 metadata.typeCount) with
          | (warnings, .error fault) => ⟨warnings ++ [malformedWarning path fault], none⟩
          | (warnings, .ok types) => ⟨warnings, some types⟩

/-- The warning about an archive that cannot be opened. -/
def unopenedWarning (error : Files.FileError) : Warning :=
  ⟨warningSource, "cannot open " ++ error.path.text ++ ": " ++ error.message⟩

/-- Read the archive at a path; one with a null character is refused. -/
def readFile (files : Files.Node) (path : Files.Path) :
    Except Files.FileError Reading :=
  match files.read path with
  | .error error =>
      if error.fault = .nullCharacter then .error error
      else .ok ⟨[unopenedWarning error], none⟩
  | .ok data => .ok (readBytes path data)

end Archive

/-- The archives that could not be read so far. -/
structure Extractor where
  skipped : List Files.Path := []

namespace Extractor

/-- What a step of extraction yields beside the archives skipped. -/
structure Yield where
  warnings : List Warning
  /-- The types taken, unless a path was refused. -/
  types : Except Files.FileError (List RetainedType)

/-- Read one archive. -/
def readArchive
    (extractor : Extractor)
    (files : Files.Node)
    (path : Files.Path) :
    Yield × Extractor :=
  match Archive.readFile files path with
  | .error error => (⟨[], .error error⟩, extractor)
  | .ok ⟨warnings, some types⟩ => (⟨warnings, .ok types⟩, extractor)
  | .ok ⟨warnings, none⟩ =>
      (⟨warnings, .ok []⟩, { skipped := extractor.skipped ++ [path] })

/-- Read archives one after another, up to a path that is refused. -/
def readArchives (extractor : Extractor) (files : Files.Node) :
    List Files.Path → Yield × Extractor
  | [] => (⟨[], .ok []⟩, extractor)
  | path :: rest =>
      match extractor.readArchive files path with
      | (⟨warnings, .error error⟩, extractor) => (⟨warnings, .error error⟩, extractor)
      | (⟨warnings, .ok types⟩, extractor) =>
          let (others, extractor) := extractor.readArchives files rest
          (⟨warnings ++ others.warnings, others.types.map (types ++ ·)⟩, extractor)

end Extractor

/-- The keys of the members of forbidden classes, in order of extraction. -/
def denylistEntries (types : List RetainedType) (forbidden : NameSet) :
    List String :=
  types.flatMap fun type =>
    if forbidden.contains type.qualifiedName then
      type.members.map (memberKey type.qualifiedName)
    else []

/-- A retained type as a type of a catalog. -/
def CatalogType.ofRetained (type : RetainedType) : CatalogType where
  space := type.space
  name := type.name
  isSealed := type.isSealed
  staticMethods := NameSet.ofList (type.members.filter (· ≠ constructorName))
  constructible := type.members.contains constructorName

/-- The catalog of retained types. -/
def Catalog.ofRetained (types : List RetainedType) : Catalog :=
  Catalog.ofList (types.map CatalogType.ofRetained)

end WinrtLint
