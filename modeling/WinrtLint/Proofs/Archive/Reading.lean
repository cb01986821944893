import WinrtLint.Archive.Extraction
import WinrtLint.Proofs.Files.Reading
import WinrtLint.Proofs.Outcome

/-!
# What reading an archive comes to

The types of an archive are those of all rows of its type definitions, and any
fault on the way leaves it without types (`typesOf`).  Reading an archive is
told by that alone: it takes all types or skips the archive, and what it warns
about on the way changes nothing in that (`types_readBytes`).  The one path
that is neither taken nor skipped is one with a null character.
-/

namespace WinrtLint

open WinrtLint.Outcome

namespace Archive

/-- The type that a verdict takes, if it takes one. -/
def Verdict.type? : Verdict → Option RetainedType
  | .kept type => some type
  | .passed => none
  | .unnamedBase _ _ => none

/-- The types in all rows of type definitions. -/
def typesIn (metadata : Metadata) : Except FormatError (List RetainedType) := do
  let verdicts ← (List.range' 1 metadata.typeCount).mapM (judge metadata)
  return verdicts.filterMap Verdict.type?

/-- The types of an archive; `none` where it has no metadata. -/
def typesOf (data : Bytes) :
    Except FormatError (Option (List RetainedType)) := do
  let image ← Image.parse data
  match ← image.metadata with
  | none => return none
  | some blob =>
      let metadata ← Metadata.parse blob
      let types ← typesIn metadata
      return some types

/-- The types of an archive that can be read. -/
def types? (data : Bytes) : Option (List RetainedType) :=
  match typesOf data with
  | .ok types => types
  | .error _ => none

/-- The types taken from some rows are those of the verdicts on all of them. -/
theorem takeTypes_snd
    (path : Files.Path)
    (metadata : Metadata)
    (rows : List Nat) :
    (takeTypes path metadata rows).2 =
      (rows.mapM (judge metadata)).map (List.filterMap Verdict.type?) := by
  induction rows with
  | nil => rfl
  | cons row rest induction =>
      rw [takeTypes, List.mapM_cons]
      cases judge metadata row with
      | error fault => rfl
      | ok verdict =>
          cases verdict <;>
            simp only [induction, ok_bind] <;>
            cases rest.mapM (judge metadata) <;>
            rfl

theorem takeTypes_allRows (path : Files.Path) (metadata : Metadata) :
    (takeTypes path metadata (List.range' 1 metadata.typeCount)).2 = typesIn metadata := by
  rw [takeTypes_snd, typesIn]
  cases (List.range' 1 metadata.typeCount).mapM (judge metadata) <;> rfl

/-- Reading the bytes of an archive takes its types, whatever the path is. -/
theorem types_readBytes (path : Files.Path) (data : Bytes) :
    (readBytes path data).types = types? data := by
  rw [readBytes, types?, typesOf]
  cases Image.parse data with
  | error fault => rfl
  | ok image =>
      simp only [ok_bind]
      cases image.metadata with
      | error fault => rfl
      | ok located =>
          cases located with
          | none => rfl
          | some blob =>
              simp only [ok_bind]
              cases Metadata.parse blob with
              | error fault => rfl
              | ok metadata =>
                  simp only [ok_bind, ← takeTypes_allRows path metadata]
                  rcases takeTypes path metadata (List.range' 1 metadata.typeCount) with
                    ⟨warnings, fault | types⟩ <;> rfl

/-- The types of an archive that can be read are those in its metadata. -/
theorem types?_eq_some {data : Bytes} {types : List RetainedType} :
    types? data = some types ↔
      ∃ image blob metadata,
        Image.parse data = .ok image ∧ image.metadata = .ok (some blob) ∧
        Metadata.parse blob = .ok metadata ∧ typesIn metadata = .ok types := by
  rw [types?, typesOf]
  constructor
  · intro success
    split at success
    · rename_i located steps
      subst success
      rcases bind_eq_ok.1 steps with ⟨image, imageRead, chain⟩
      rcases bind_eq_ok.1 chain with ⟨found, metadataFound, chain⟩
      cases found with
      | none => simp [pure, Except.pure] at chain
      | some blob =>
          rcases bind_eq_ok.1 chain with ⟨metadata, metadataRead, chain⟩
          rcases bind_eq_ok.1 chain with ⟨taken, typesTaken, same⟩
          cases same
          exact ⟨image, blob, metadata, imageRead, metadataFound, metadataRead, typesTaken⟩
    · simp at success
  · rintro ⟨image, blob, metadata, imageRead, metadataFound, metadataRead, typesTaken⟩
    simp only [imageRead, metadataFound, metadataRead, typesTaken, ok_bind]
    rfl

/-- The types of the archive at a path that can be read. -/
def typesAt? (files : Files.Node) (path : Files.Path) :
    Option (List RetainedType) :=
  match files.read path with
  | .ok data => types? data
  | .error _ => none

end Archive

/-! ## What becomes of an archive -/

namespace Extractor

/-- Whether reading an archive takes the given types and leaves the skipped archives alone. -/
def Takes
    (extractor : Extractor)
    (files : Files.Node)
    (path : Files.Path)
    (types : List RetainedType) :
    Prop :=
  (extractor.readArchive files path).1.types = .ok types ∧
    (extractor.readArchive files path).2.skipped = extractor.skipped

/-- Whether reading an archive takes no types and notes it as skipped. -/
def Skips
    (extractor : Extractor)
    (files : Files.Node)
    (path : Files.Path) :
    Prop :=
  (extractor.readArchive files path).1.types = .ok [] ∧
    (extractor.readArchive files path).2.skipped = extractor.skipped ++ [path]

/-- Whether reading an archive fails because its path has a null character. -/
def Refuses
    (extractor : Extractor)
    (files : Files.Node)
    (path : Files.Path) :
    Prop :=
  (extractor.readArchive files path).1.types = .error ⟨.nullCharacter, path⟩ ∧
    (extractor.readArchive files path).2.skipped = extractor.skipped

/-- A reading with types is taken, and one without is skipped. -/
theorem readArchive_of_readFile
    (extractor : Extractor)
    {files : Files.Node}
    {path : Files.Path}
    {reading : Archive.Reading}
    (read : Archive.readFile files path = .ok reading) :
    extractor.readArchive files path =
      match reading.types with
      | some types => (⟨reading.warnings, .ok types⟩, extractor)
      | none => (⟨reading.warnings, .ok []⟩, { skipped := extractor.skipped ++ [path] }) := by
  rw [readArchive, read]
  rcases reading with ⟨warnings, none | types⟩ <;> rfl

theorem takes_of_typesAt?
    (extractor : Extractor)
    {files : Files.Node}
    {path : Files.Path}
    {types : List RetainedType}
    (readable : Archive.typesAt? files path = some types) :
    extractor.Takes files path types := by
  rw [Archive.typesAt?] at readable
  split at readable
  · rename_i data stored
    have read : Archive.readFile files path = .ok (Archive.readBytes path data) := by
      rw [Archive.readFile, stored]
    rw [Takes, extractor.readArchive_of_readFile read, Archive.types_readBytes, readable]
    exact ⟨rfl, rfl⟩
  · simp at readable

/-- An archive that cannot be read is skipped, unless its path has a null character. -/
theorem skips_of_typesAt?
    (extractor : Extractor)
    {files : Files.Node}
    {path : Files.Path}
    (allowed : ¬ path.HasNull)
    (unreadable : Archive.typesAt? files path = none) :
    extractor.Skips files path := by
  rw [Archive.typesAt?] at unreadable
  split at unreadable
  · rename_i data stored
    have read : Archive.readFile files path = .ok (Archive.readBytes path data) := by
      rw [Archive.readFile, stored]
    rw [Skips, extractor.readArchive_of_readFile read, Archive.types_readBytes, unreadable]
    exact ⟨rfl, rfl⟩
  · rename_i error failed
    have other : error.fault ≠ .nullCharacter := by
      intro null
      have same : error = ⟨.nullCharacter, path⟩ := by
        rw [← null, ← Files.Node.path_of_read failed]
      exact allowed (Files.Node.read_eq_nullCharacter.1 (same ▸ failed))
    have read :
        Archive.readFile files path = .ok ⟨[Archive.unopenedWarning error], none⟩ := by
      rw [Archive.readFile, failed]
      simp only [other, if_false]
    rw [Skips, extractor.readArchive_of_readFile read]
    exact ⟨rfl, rfl⟩

theorem refuses_of_hasNull
    (extractor : Extractor)
    (files : Files.Node)
    {path : Files.Path}
    (null : path.HasNull) :
    extractor.Refuses files path := by
  rw [Refuses, readArchive, Archive.readFile, Files.Node.read_eq_nullCharacter.2 null]
  exact ⟨rfl, rfl⟩

theorem not_hasNull_of_read
    {files : Files.Node}
    {path : Files.Path}
    {data : Bytes}
    (stored : files.read path = .ok data) :
    ¬ path.HasNull := by
  intro null
  have failed : files.read path = .error ⟨.nullCharacter, path⟩ :=
    Files.Node.read_eq_nullCharacter.2 null
  rw [stored] at failed
  cases failed

theorem skips_of_types?
    (extractor : Extractor)
    {files : Files.Node}
    {path : Files.Path}
    {data : Bytes}
    (stored : files.read path = .ok data)
    (unreadable : Archive.types? data = none) :
    extractor.Skips files path := by
  apply extractor.skips_of_typesAt? (not_hasNull_of_read stored)
  rw [Archive.typesAt?, stored]
  exact unreadable

/-- An archive whose bytes are there is taken exactly where they have types. -/
theorem takes_iff
    {extractor : Extractor}
    {files : Files.Node}
    {path : Files.Path}
    {data : Bytes}
    (stored : files.read path = .ok data)
    {types : List RetainedType} :
    extractor.Takes files path types ↔ Archive.types? data = some types := by
  have found : ∀ types, Archive.types? data = some types →
      extractor.Takes files path types := by
    intro types readable
    apply extractor.takes_of_typesAt?
    rw [Archive.typesAt?, stored]
    exact readable
  refine ⟨?_, found types⟩
  rintro ⟨taken, unskipped⟩
  cases outcome : Archive.types? data with
  | none =>
      have skipped := (extractor.skips_of_types? stored outcome).2
      rw [unskipped] at skipped
      simp at skipped
  | some others =>
      have same := (found others outcome).1
      rw [taken] at same
      cases same
      rfl

end Extractor

end WinrtLint
