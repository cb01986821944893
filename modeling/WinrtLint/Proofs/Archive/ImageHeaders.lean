import WinrtLint.Archive.Image
import WinrtLint.Proofs.Bytes
import WinrtLint.Proofs.Outcome

/-!
# The way to the metadata of an image

Each stage of reading an image is told by what the bytes have to be like for it
to succeed: the headers (`parse_eq_ok`), a section, the directory that leads to
the metadata, and the metadata itself (`metadata_eq_ok_some`).  Every one of
these conditions asks for bytes that are there, so bytes that follow the image
change none of them.
-/

namespace WinrtLint.Archive.Image

open WinrtLint.Bytes
open WinrtLint.Outcome

theorem need_eq_ok {data : Bytes} {offset count : Nat} :
    need data offset count = .ok () ↔ data.holds offset count = true := by
  rw [need]
  split <;> simp_all

theorem word_eq_ok {data : Bytes} {offset width value : Nat} :
    word data offset width = .ok value ↔
      data.holds offset width = true ∧ data.word offset width = value := by
  rw [word, bind_eq_ok]
  constructor
  · rintro ⟨⟨⟩, reach, same⟩
    exact ⟨need_eq_ok.1 reach, pure_eq_ok.1 same⟩
  · rintro ⟨reach, same⟩
    exact ⟨(), need_eq_ok.2 reach, pure_eq_ok.2 same⟩

/-! ## Headers -/

/-- Where the file header begins. -/
def fileHeader (data : Bytes) : Nat :=
  data.word signaturePointer 4 + 4

/-- Where the optional header begins. -/
def optionalHeader (data : Bytes) : Nat :=
  fileHeader data + fileHeaderSize

/-- Where the table of sections begins. -/
def sectionTable (data : Bytes) : Nat :=
  optionalHeader data + data.word (fileHeader data + 16) 2

/-- How many sections an image announces. -/
def sectionCount (data : Bytes) : Nat :=
  data.word (fileHeader data + 2) 2

/-- Whether bytes begin like an image whose data directories begin at a given offset of the
optional header. -/
structure HasHeaders (data : Bytes) (start : Nat) : Prop where
  dosSignature : data.slice 0 2 = #[0x4D, 0x5A]
  pointer_holds : data.holds signaturePointer 4 = true
  imageSignature : data.slice (data.word signaturePointer 4) 4 = #[0x50, 0x45, 0, 0]
  fileHeader_holds : data.holds (fileHeader data) fileHeaderSize = true
  magic_holds : data.holds (optionalHeader data) 2 = true
  magic_known : directoriesOffset? (data.word (optionalHeader data) 2) = some start

/-- An image is read where its headers, the directory of its metadata and its sections are. -/
theorem parse_eq_ok {data : Bytes} {image : Image} :
    parse data = .ok image ↔
      ∃ start sections cliDirectory, HasHeaders data start ∧
        readCliDirectory data (optionalHeader data + start) = .ok cliDirectory ∧
        readSections data (sectionTable data) (sectionCount data) = .ok sections ∧
        image = ⟨data, sections, cliDirectory⟩ := by
  rw [parse, check_eq_ok]
  constructor
  · rintro ⟨dosSignature, chain⟩
    rcases bind_eq_ok.1 chain with ⟨signature, signatureRead, chain⟩
    rcases word_eq_ok.1 signatureRead with ⟨pointerThere, rfl⟩
    rcases check_eq_ok.1 chain with ⟨imageSignature, chain⟩
    rcases bind_eq_ok.1 chain with ⟨⟨⟩, fileHeaderThere, chain⟩
    rcases bind_eq_ok.1 chain with ⟨magic, magicRead, chain⟩
    rcases word_eq_ok.1 magicRead with ⟨magicThere, rfl⟩
    split at chain
    · simp at chain
    · rename_i start known
      rcases bind_eq_ok.1 chain with ⟨cliDirectory, directoryRead, chain⟩
      rcases bind_eq_ok.1 chain with ⟨sections, sectionsRead, same⟩
      refine ⟨start, sections, cliDirectory, ?_, directoryRead, sectionsRead,
        (pure_eq_ok.1 same).symm⟩
      exact {
        dosSignature := not_not.1 dosSignature
        pointer_holds := pointerThere
        imageSignature := not_not.1 imageSignature
        fileHeader_holds := need_eq_ok.1 fileHeaderThere
        magic_holds := magicThere
        magic_known := known }
  · rintro ⟨start, sections, cliDirectory, headers, directoryRead, sectionsRead, rfl⟩
    refine ⟨not_not.2 headers.dosSignature, ?_⟩
    refine bind_eq_ok.2 ⟨_, word_eq_ok.2 ⟨headers.pointer_holds, rfl⟩, ?_⟩
    refine check_eq_ok.2 ⟨not_not.2 headers.imageSignature, ?_⟩
    refine bind_eq_ok.2 ⟨(), need_eq_ok.2 headers.fileHeader_holds, ?_⟩
    refine bind_eq_ok.2 ⟨_, word_eq_ok.2 ⟨headers.magic_holds, rfl⟩, ?_⟩
    have known := headers.magic_known
    rw [optionalHeader, fileHeader] at known
    simp only [known]
    exact bind_eq_ok.2 ⟨cliDirectory, directoryRead,
      bind_eq_ok.2 ⟨sections, sectionsRead, rfl⟩⟩

/-- The directory of the metadata is read where the directories are announced and there; an
image with fewer directories has an empty one. -/
theorem readCliDirectory_eq_ok
    {data : Bytes}
    {directories : Nat}
    {directory : Directory} :
    readCliDirectory data directories = .ok directory ↔
      data.holds (directories - 4) 4 = true ∧
        if cliDirectoryNumber < data.word (directories - 4) 4 then
          data.holds (directories + 8 * cliDirectoryNumber) 8 = true ∧
            directory =
              ⟨data.word (directories + 8 * cliDirectoryNumber) 4,
                data.word (directories + 8 * cliDirectoryNumber + 4) 4⟩
        else directory = ⟨0, 0⟩ := by
  rw [readCliDirectory, bind_eq_ok]
  constructor
  · rintro ⟨count, countRead, chain⟩
    rcases word_eq_ok.1 countRead with ⟨countThere, rfl⟩
    refine ⟨countThere, ?_⟩
    split at chain
    · rename_i announced
      rcases bind_eq_ok.1 chain with ⟨⟨⟩, entryThere, same⟩
      rw [if_pos announced]
      exact ⟨need_eq_ok.1 entryThere, (pure_eq_ok.1 same).symm⟩
    · rename_i unannounced
      rw [if_neg unannounced]
      exact (pure_eq_ok.1 chain).symm
  · rintro ⟨countThere, entry⟩
    refine ⟨_, word_eq_ok.2 ⟨countThere, rfl⟩, ?_⟩
    split at entry
    · rename_i announced
      rw [if_pos announced]
      exact bind_eq_ok.2 ⟨(), need_eq_ok.2 entry.1, pure_eq_ok.2 entry.2.symm⟩
    · rename_i unannounced
      rw [if_neg unannounced]
      exact pure_eq_ok.2 entry.symm

/-! ## Metadata -/

/-- An image gives metadata where both directories on the way refer to something, each in a
section, and the image reaches over what they refer to. -/
theorem metadata_eq_ok_some {image : Image} {blob : Bytes} :
    image.metadata = .ok (some blob) ↔
      image.cliDirectory.isEmpty = false ∧
      ∃ header, image.offsetOf image.cliDirectory.address = .ok header ∧
        image.data.holds header 16 = true ∧
        ∃ directory : Directory,
          directory = ⟨image.data.word (header + 8) 4, image.data.word (header + 12) 4⟩ ∧
          directory.isEmpty = false ∧
          ∃ start, image.offsetOf directory.address = .ok start ∧
            image.data.holds start directory.size = true ∧
            blob = image.data.slice start directory.size := by
  rw [metadata]
  constructor
  · intro success
    split at success
    · simp [pure, Except.pure] at success
    · rename_i leads
      rcases bind_eq_ok.1 success with ⟨header, headerFound, chain⟩
      rcases bind_eq_ok.1 chain with ⟨⟨⟩, headerThere, chain⟩
      refine ⟨by simpa using leads, header, headerFound, need_eq_ok.1 headerThere,
        _, rfl, ?_⟩
      dsimp only at chain
      split at chain
      · simp [pure, Except.pure] at chain
      · rename_i filled
        rcases bind_eq_ok.1 chain with ⟨start, startFound, chain⟩
        refine ⟨by simpa using filled, start, startFound, ?_⟩
        split at chain
        · rename_i reach
          exact ⟨reach, (Option.some.inj (pure_eq_ok.1 chain)).symm⟩
        · simp at chain
  · rintro ⟨leads, header, headerFound, headerThere, directory, rfl, filled, start,
      startFound, reach, rfl⟩
    rw [leads, if_neg Bool.false_ne_true]
    refine bind_eq_ok.2 ⟨header, headerFound, bind_eq_ok.2 ⟨(), need_eq_ok.2 headerThere, ?_⟩⟩
    dsimp only
    rw [filled, if_neg Bool.false_ne_true]
    refine bind_eq_ok.2 ⟨start, startFound, ?_⟩
    rw [if_pos reach]
    rfl

/-! ## Bytes behind an image -/

theorem holds_of_slice_eq
    {data piece : Bytes}
    {offset count : Nat}
    (same : data.slice offset count = piece)
    (full : piece.size = count)
    (positive : 0 < count) :
    data.holds offset count = true := by
  have size : (data.slice offset count).size = count := by rw [same, full]
  simp only [Bytes.slice, Array.size_extract] at size
  rw [holds_iff]
  omega

theorem readSection_append
    {data : Bytes}
    {offset : Nat}
    {part : Section}
    (success : readSection data offset = .ok part)
    (more : Bytes) :
    readSection (data ++ more) offset = .ok part := by
  rcases bind_eq_ok.1 success with ⟨⟨⟩, entryThere, same⟩
  have reach := need_eq_ok.1 entryThere
  have name : data.holds offset 8 = true := holds_start reach (by decide)
  have field : ∀ place, place + 4 ≤ 24 → data.holds (offset + place) 4 = true :=
    fun place inside => holds_part reach inside
  refine bind_eq_ok.2 ⟨(), need_eq_ok.2 (holds_append reach more), ?_⟩
  rw [← same, slice_append name, word_append (field 8 (by decide)),
    word_append (field 12 (by decide)), word_append (field 16 (by decide)),
    word_append (field 20 (by decide))]

theorem readSections_append
    {data : Bytes}
    {offset count : Nat}
    {sections : List Section}
    (success : readSections data offset count = .ok sections)
    (more : Bytes) :
    readSections (data ++ more) offset count = .ok sections := by
  induction count generalizing offset sections with
  | zero => exact success
  | succ count induction =>
      rcases bind_eq_ok.1 success with ⟨first, firstRead, chain⟩
      rcases bind_eq_ok.1 chain with ⟨rest, restRead, same⟩
      exact bind_eq_ok.2 ⟨first, readSection_append firstRead more,
        bind_eq_ok.2 ⟨rest, induction restRead, same⟩⟩

theorem readCliDirectory_append
    {data : Bytes}
    {directories : Nat}
    {directory : Directory}
    (success : readCliDirectory data directories = .ok directory)
    (more : Bytes) :
    readCliDirectory (data ++ more) directories = .ok directory := by
  rw [readCliDirectory_eq_ok] at success ⊢
  rcases success with ⟨countThere, entry⟩
  refine ⟨holds_append countThere more, ?_⟩
  rw [word_append countThere]
  split at entry
  · rename_i announced
    have low : data.holds (directories + 8 * cliDirectoryNumber) 4 = true :=
      holds_start entry.1 (by decide)
    have high : data.holds (directories + 8 * cliDirectoryNumber + 4) 4 = true :=
      holds_part entry.1 (by decide)
    rw [if_pos announced, word_append low, word_append high]
    exact ⟨holds_append entry.1 more, entry.2⟩
  · rename_i unannounced
    rwa [if_neg unannounced]

/-- The headers of an image, and where they say that its parts are, stay the same when bytes
follow. -/
theorem HasHeaders.append
    {data : Bytes}
    {start : Nat}
    (headers : HasHeaders data start)
    (more : Bytes) :
    HasHeaders (data ++ more) start ∧
      optionalHeader (data ++ more) = optionalHeader data ∧
      sectionTable (data ++ more) = sectionTable data ∧
      sectionCount (data ++ more) = sectionCount data := by
  have pointer := word_append headers.pointer_holds more
  have file : fileHeader (data ++ more) = fileHeader data := by
    rw [fileHeader, pointer, fileHeader]
  have optional : optionalHeader (data ++ more) = optionalHeader data := by
    rw [optionalHeader, file, optionalHeader]
  have countThere : data.holds (fileHeader data + 2) 2 = true :=
    holds_part headers.fileHeader_holds (by decide)
  have sizeThere : data.holds (fileHeader data + 16) 2 = true :=
    holds_part headers.fileHeader_holds (by decide)
  refine ⟨?_, optional, ?_, ?_⟩
  · exact {
      dosSignature := by
        rw [slice_append (holds_of_slice_eq headers.dosSignature rfl (by decide))]
        exact headers.dosSignature
      pointer_holds := holds_append headers.pointer_holds more
      imageSignature := by
        rw [pointer, slice_append (holds_of_slice_eq headers.imageSignature rfl (by decide))]
        exact headers.imageSignature
      fileHeader_holds := file.symm ▸ holds_append headers.fileHeader_holds more
      magic_holds := optional.symm ▸ holds_append headers.magic_holds more
      magic_known := by
        rw [optional, word_append headers.magic_holds]
        exact headers.magic_known }
  · rw [sectionTable, optional, file, word_append sizeThere, sectionTable]
  · rw [sectionCount, file, word_append countThere, sectionCount]

theorem parse_append
    {data : Bytes}
    {image : Image}
    (success : parse data = .ok image)
    (more : Bytes) :
    parse (data ++ more) = .ok { image with data := data ++ more } := by
  rcases parse_eq_ok.1 success with
    ⟨start, sections, cliDirectory, headers, directoryRead, sectionsRead, rfl⟩
  rcases headers.append more with ⟨longer, optional, table, count⟩
  refine parse_eq_ok.2 ⟨start, sections, cliDirectory, longer, ?_, ?_, rfl⟩
  · rw [optional]
    exact readCliDirectory_append directoryRead more
  · rw [table, count]
    exact readSections_append sectionsRead more

theorem metadata_append
    {image : Image}
    {blob : Bytes}
    (success : image.metadata = .ok (some blob))
    (more : Bytes) :
    ({ image with data := image.data ++ more } : Image).metadata = .ok (some blob) := by
  rcases metadata_eq_ok_some.1 success with
    ⟨leads, header, headerFound, headerThere, directory, same, filled, start, startFound,
      reach, rfl⟩
  have address : image.data.holds (header + 8) 4 = true :=
    holds_part headerThere (by decide)
  have size : image.data.holds (header + 12) 4 = true :=
    holds_part headerThere (by decide)
  refine metadata_eq_ok_some.2 ⟨leads, header, headerFound, holds_append headerThere more,
    directory, ?_, filled, start, startFound, holds_append reach more,
    (slice_append reach more).symm⟩
  rw [word_append address, word_append size]
  exact same

end WinrtLint.Archive.Image
