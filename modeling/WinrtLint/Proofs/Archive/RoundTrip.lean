import WinrtLint.Proofs.Archive.ImageHeaders
import WinrtLint.Proofs.Archive.Writer

/-!
# Archives that are built are read back

An image is written around the metadata of a builder: the headers, one section,
and in it the header of the common language infrastructure with the metadata
behind it.  There are four forms of images.  Reading any of them leads back to
the metadata (`metadata_image`), and so to what the builder was asked for.
-/

namespace WinrtLint

namespace Archive

open WinrtLint.Bytes
open WinrtLint.Outcome
open WinrtLint.Text

/-- The forms in which an archive can be written. -/
structure ImageForm where
  /-- Whether the optional header is the longer one. -/
  isPlus : Bool
  /-- Whether the methods are found through pointers. -/
  pointers : Bool
  deriving DecidableEq, Repr

namespace Builder

/-! ## Images -/

/-- Fill bytes up with zero bytes to a given length. -/
def justify (length : Nat) (bytes : List UInt8) : List UInt8 :=
  bytes ++ List.replicate (length - bytes.length) 0

/-- The address of the section. -/
def sectionAddress : Nat :=
  0x2000

/-- Where the section begins in the file. -/
def sectionOffset : Nat :=
  0x200

/-- How long the header of the common language infrastructure is. -/
def cliHeaderSize : Nat :=
  72

/-- The header of the common language infrastructure, which the metadata follow. -/
def cliHeader (metadataSize : Nat) : List UInt8 :=
  justify cliHeaderSize
    (ofWord 4 cliHeaderSize ++ ofWord 2 2 ++ ofWord 2 5 ++
      ofWord 4 (sectionAddress + cliHeaderSize) ++ ofWord 4 metadataSize)

/-- The bytes of the section. -/
def sectionBytes (builder : Builder) (pointers : Bool) : List UInt8 :=
  Root.pad4 (cliHeader (builder.metadata pointers).length ++ builder.metadata pointers)

/-- The header with which every executable begins; the image's signature is behind it. -/
def dosHeader : List UInt8 :=
  [0x4D, 0x5A] ++ List.replicate 58 0 ++ ofWord 4 0x80 ++ List.replicate 64 0

/-- The file header of an image with one section. -/
def coffHeader (optionalSize : Nat) : List UInt8 :=
  ofWord 2 0x14C ++ ofWord 2 1 ++ ofWord 4 0 ++ ofWord 4 0 ++ ofWord 4 0 ++
    ofWord 2 optionalSize ++ ofWord 2 0x2102

/-- How long the optional header is. -/
def optionalSize (isPlus : Bool) : Nat :=
  if isPlus then 240 else 224

/-- Where the directories begin in the optional header. -/
def directoriesStart (isPlus : Bool) : Nat :=
  if isPlus then 112 else 96

/-- The optional header: its magic, and sixteen directories of which one leads to something. -/
def optionalHeader (isPlus : Bool) : List UInt8 :=
  ofWord 2 (if isPlus then 0x20B else 0x10B) ++
    List.replicate (directoriesStart isPlus - 6) 0 ++ ofWord 4 16 ++
    List.replicate (8 * 14) 0 ++ ofWord 4 sectionAddress ++ ofWord 4 cliHeaderSize ++
    List.replicate 8 0

/-- The entry of the section in the table of sections. -/
def sectionHeader (size : Nat) : List UInt8 :=
  justify 40
    (justify 8 (Ascii.encode ".text") ++ ofWord 4 size ++ ofWord 4 sectionAddress ++
      ofWord 4 size ++ ofWord 4 sectionOffset)

/-- All headers of an image. -/
def headers (isPlus : Bool) (size : Nat) : List UInt8 :=
  dosHeader ++ [0x50, 0x45, 0, 0] ++ coffHeader (optionalSize isPlus) ++
    optionalHeader isPlus ++ sectionHeader size

/-- The bytes of an image. -/
def imageBytes (builder : Builder) (form : ImageForm) : List UInt8 :=
  let body := builder.sectionBytes form.pointers
  justify sectionOffset (headers form.isPlus body.length) ++ body

/-- Whether all numbers fit the fields in which they are written; no size or offset is larger
than the section. -/
structure Writable (builder : Builder) (pointers : Bool) : Prop where
  rows_fit : builder.RowsFit pointers
  size_lt : (builder.sectionBytes pointers).length < 2 ^ 32

instance (builder : Builder) (pointers : Bool) :
    Decidable (builder.Writable pointers) :=
  decidable_of_iff
    (builder.RowsFit pointers ∧ (builder.sectionBytes pointers).length < 2 ^ 32)
    ⟨fun ⟨rows_fit, size_lt⟩ => ⟨rows_fit, size_lt⟩,
      fun writable => ⟨writable.rows_fit, writable.size_lt⟩⟩

/-- The image of an archive, if it can be written. -/
def image? (builder : Builder) (form : ImageForm) : Option Bytes :=
  if builder.Writable form.pointers then some (builder.imageBytes form).toArray else none

/-! ## The way to the metadata -/

theorem length_dosHeader : dosHeader.length = 0x80 := by
  simp only [dosHeader, List.length_append, length_ofWord, List.length_replicate]
  rfl

theorem length_coffHeader (size : Nat) : (coffHeader size).length = 20 := by
  simp only [coffHeader, List.length_append, length_ofWord]

theorem length_optionalHeader (isPlus : Bool) :
    (optionalHeader isPlus).length = optionalSize isPlus := by
  simp only [optionalHeader, List.length_append, length_ofWord, List.length_replicate]
  cases isPlus <;> rfl

theorem length_sectionHeader (size : Nat) :
    (sectionHeader size).length = 40 := by
  simp only [sectionHeader, justify, Root.length_encode, List.length_append, length_ofWord,
    List.length_replicate]
  rfl

theorem length_headers (isPlus : Bool) (size : Nat) :
    (headers isPlus size).length = 0x98 + optionalSize isPlus + 40 := by
  simp only [headers, List.length_append, length_dosHeader, length_coffHeader,
    length_optionalHeader, length_sectionHeader]
  rfl

variable {data : Bytes} {isPlus : Bool} {size : Nat}

theorem hasAt_headers (here : data.HasAt 0 (headers isPlus size)) :
    data.HasAt 0 dosHeader ∧ data.HasAt 0x80 [0x50, 0x45, 0, 0] ∧
      data.HasAt 0x84 (coffHeader (optionalSize isPlus)) ∧
      data.HasAt 0x98 (optionalHeader isPlus) ∧
      data.HasAt (0x98 + optionalSize isPlus) (sectionHeader size) := by
  simp only [headers, hasAt_append, List.length_append, length_dosHeader, length_coffHeader,
    length_optionalHeader, Nat.zero_add] at here
  rcases here with ⟨⟨⟨⟨dosHere, signatureHere⟩, coffHere⟩, optionalHere⟩, sectionHere⟩
  exact ⟨dosHere, signatureHere, coffHere, optionalHere, sectionHere⟩

/-- The headers that are written are those of an image with one section. -/
theorem hasHeaders_of_hasAt (here : data.HasAt 0 (headers isPlus size)) :
    Image.HasHeaders data (directoriesStart isPlus) ∧
      Image.optionalHeader data = 0x98 ∧
      Image.sectionTable data = 0x98 + optionalSize isPlus ∧ Image.sectionCount data = 1 := by
  have reach := here.holds (by simp [headers])
  rw [length_headers, holds_iff] at reach
  rcases hasAt_headers here with ⟨dosHere, signatureHere, coffHere, optionalHere, -⟩
  simp only [dosHeader, hasAt_append, List.length_append, List.length_replicate] at dosHere
  simp only [coffHeader, hasAt_append, List.length_append, length_ofWord] at coffHere
  simp only [optionalHeader, hasAt_append] at optionalHere
  have pointer : data.word Image.signaturePointer 4 = 0x80 := dosHere.1.2.word (by decide)
  have file : Image.fileHeader data = 0x84 := by rw [Image.fileHeader, pointer]
  have optional : Image.optionalHeader data = 0x98 := by
    rw [Image.optionalHeader, file]
    rfl
  have count : data.word (0x84 + 2) 2 = 1 := coffHere.1.1.1.1.1.2.word (by decide)
  have length : data.word (0x84 + 16) 2 = optionalSize isPlus :=
    coffHere.1.2.word (by cases isPlus <;> decide)
  have magic : data.word 0x98 2 = if isPlus then 0x20B else 0x10B :=
    optionalHere.1.1.1.1.1.1.word (by cases isPlus <;> decide)
  refine ⟨?_, optional, ?_, ?_⟩
  · exact {
      dosSignature := dosHere.1.1.1.slice
      pointer_holds := holds_iff.2 (show 0x3C + 4 ≤ data.size by omega)
      imageSignature := by
        rw [pointer]
        exact signatureHere.slice
      fileHeader_holds := by
        rw [file]
        exact holds_iff.2 (show 0x84 + 20 ≤ data.size by omega)
      magic_holds := by
        rw [optional]
        exact holds_iff.2 (by omega)
      magic_known := by
        rw [optional, magic]
        cases isPlus <;> rfl }
  · rw [Image.sectionTable, optional, file, length]
  · rw [Image.sectionCount, file, count]

theorem readCliDirectory_of_hasAt (here : data.HasAt 0 (headers isPlus size)) :
    Image.readCliDirectory data (0x98 + directoriesStart isPlus) =
      .ok ⟨sectionAddress, cliHeaderSize⟩ := by
  have reach := here.holds (by simp [headers])
  rw [length_headers, holds_iff] at reach
  rcases hasAt_headers here with ⟨-, -, -, optionalHere, -⟩
  simp only [optionalHeader, hasAt_append, List.length_append, length_ofWord,
    List.length_replicate] at optionalHere
  rcases optionalHere with ⟨⟨⟨⟨⟨-, countHere⟩, -⟩, addressHere⟩, sizeHere⟩, -⟩
  have room :
      directoriesStart isPlus + 128 = optionalSize isPlus ∧ 6 ≤ directoriesStart isPlus := by
    cases isPlus <;> decide
  have count : data.word (0x98 + directoriesStart isPlus - 4) 4 = 16 := by
    have place :
        0x98 + (2 + (directoriesStart isPlus - 6)) = 0x98 + directoriesStart isPlus - 4 := by
      omega
    exact place ▸ countHere.word (by decide)
  have entry : 0x98 + (2 + (directoriesStart isPlus - 6) + 4 + 8 * 14) =
      0x98 + directoriesStart isPlus + 8 * Image.cliDirectoryNumber := by
    rw [Image.cliDirectoryNumber]
    omega
  rw [Image.readCliDirectory_eq_ok, count, if_pos (by decide)]
  refine ⟨holds_iff.2 (by omega), holds_iff.2 ?_, ?_⟩
  · rw [Image.cliDirectoryNumber]
    omega
  · rw [← entry, addressHere.word (by decide), Nat.add_assoc 0x98 _ 4, sizeHere.word (by decide)]

theorem readSection_of_hasAt
    {offset : Nat}
    (small : size < 2 ^ 32)
    (here : data.HasAt offset (sectionHeader size)) :
    ∃ name, Image.readSection data offset =
      .ok ⟨name, sectionAddress, size, sectionOffset, size⟩ := by
  have reach := here.holds (List.ne_nil_of_length_pos (by rw [length_sectionHeader]; decide))
  rw [length_sectionHeader] at reach
  simp only [sectionHeader, justify, hasAt_append, List.length_append, length_ofWord,
    List.length_replicate] at here
  rcases here with ⟨⟨⟨⟨⟨-, sizeHere⟩, addressHere⟩, rawSizeHere⟩, rawOffsetHere⟩, -⟩
  have virtualSize : data.word (offset + 8) 4 = size := sizeHere.word small
  have virtualAddress : data.word (offset + 12) 4 = sectionAddress := addressHere.word (by decide)
  have rawSize : data.word (offset + 16) 4 = size := rawSizeHere.word small
  have rawOffset : data.word (offset + 20) 4 = sectionOffset := rawOffsetHere.word (by decide)
  rw [Image.readSection, Image.need_eq_ok.2 (holds_start reach (by decide))]
  simp only [ok_bind, virtualSize, virtualAddress, rawSize, rawOffset]
  exact ⟨_, rfl⟩

/-- An address within the only section is as far behind the section's start in the file. -/
theorem offsetOf_section
    {name : String}
    {directory : Directory}
    {address offset place : Nat}
    (inside : place < size) :
    Image.offsetOf ⟨data, [⟨name, address, size, offset, size⟩], directory⟩
        ((address + place : Nat) : Int) = .ok (place + offset) := by
  have covered : Section.covers ⟨name, address, size, offset, size⟩
      ((address + place : Nat) : Int) = true := by
    simp only [Section.covers, Section.span, Nat.max_self, Bool.and_eq_true, decide_eq_true_eq]
    omega
  simp only [Image.offsetOf, List.find?_cons, covered, Section.offsetOf, Except.ok.injEq]
  omega

theorem parse_of_hasAt
    (small : size < 2 ^ 32)
    (here : data.HasAt 0 (headers isPlus size)) :
    ∃ name, Image.parse data = .ok {
      data
      sections := [⟨name, sectionAddress, size, sectionOffset, size⟩]
      cliDirectory := ⟨sectionAddress, cliHeaderSize⟩ } := by
  rcases hasHeaders_of_hasAt here with ⟨hasHeaders, optional, table, count⟩
  rcases readSection_of_hasAt small (hasAt_headers here).2.2.2.2 with ⟨name, part⟩
  refine ⟨name, Image.parse_eq_ok.2 ⟨_, _, _, hasHeaders, ?_, ?_, rfl⟩⟩
  · rw [optional]
    exact readCliDirectory_of_hasAt here
  · rw [table, count, Image.readSections, part]
    rfl

theorem length_justify
    {bytes : List UInt8}
    {length : Nat}
    (short : bytes.length ≤ length) :
    (justify length bytes).length = length := by
  rw [justify, List.length_append, List.length_replicate]
  omega

theorem length_cliHeader (size : Nat) :
    (cliHeader size).length = cliHeaderSize := by
  apply length_justify
  simp only [List.length_append, length_ofWord]
  decide

/-- An image gives the metadata that stand in its section behind their header. -/
theorem metadata_of_hasAt
    {name : String}
    {blob : List UInt8}
    (filled : blob ≠ [])
    (small : size < 2 ^ 32)
    (room : cliHeaderSize + blob.length ≤ size)
    (here : data.HasAt sectionOffset (cliHeader blob.length ++ blob)) :
    Image.metadata ⟨data, [⟨name, sectionAddress, size, sectionOffset, size⟩],
      ⟨sectionAddress, cliHeaderSize⟩⟩ = .ok (some blob.toArray) := by
  rw [hasAt_append, length_cliHeader] at here
  rcases here with ⟨cliHere, blobHere⟩
  have positive := List.length_pos_iff.2 filled
  have blobThere := blobHere.holds filled
  have reach := holds_iff.1 blobThere
  simp only [cliHeader, justify, hasAt_append, List.length_append, length_ofWord] at cliHere
  rcases cliHere with ⟨⟨⟨-, addressHere⟩, sizeHere⟩, -⟩
  have address : data.word (sectionOffset + 8) 4 = sectionAddress + cliHeaderSize :=
    addressHere.word (by decide)
  have length : data.word (sectionOffset + 12) 4 = blob.length :=
    sizeHere.word (by omega)
  have header := @offsetOf_section data size name ⟨sectionAddress, cliHeaderSize⟩
    sectionAddress sectionOffset 0 (by omega)
  have start := @offsetOf_section data size name ⟨sectionAddress, cliHeaderSize⟩
    sectionAddress sectionOffset cliHeaderSize (by omega)
  rw [Nat.zero_add] at header
  rw [Image.metadata_eq_ok_some]
  refine ⟨rfl, sectionOffset, header, ?_, ⟨sectionAddress + cliHeaderSize, blob.length⟩, ?_, ?_,
    cliHeaderSize + sectionOffset, start, ?_, ?_⟩
  · exact holds_iff.2 (show sectionOffset + 16 ≤ data.size by rw [cliHeaderSize] at reach; omega)
  · rw [address, length]
  · simp [Directory.isEmpty, sectionAddress, filled]
  · rwa [Nat.add_comm]
  · rw [Nat.add_comm]
    exact blobHere.slice.symm

variable {builder : Builder}

theorem length_metadata_le (builder : Builder) (pointers : Bool) :
    cliHeaderSize + (builder.metadata pointers).length ≤
      (builder.sectionBytes pointers).length := by
  rw [sectionBytes, Root.pad4, List.length_append, List.length_append, length_cliHeader]
  omega

/-- An image leads to the metadata that were written to it. -/
theorem metadata_image
    {form : ImageForm}
    (small : (builder.sectionBytes form.pointers).length < 2 ^ 32)
    (here : data.HasAt 0 (builder.imageBytes form)) :
    ∃ image, Image.parse data = .ok image ∧
      image.metadata = .ok (some (builder.metadata form.pointers).toArray) := by
  have filled : builder.metadata form.pointers ≠ [] := by
    simp [metadata, Root.encode, ofWord]
  have room := builder.length_metadata_le form.pointers
  have short : (headers form.isPlus (builder.sectionBytes form.pointers).length).length ≤
      sectionOffset := by
    rw [length_headers]
    cases form.isPlus <;> decide
  rw [imageBytes, hasAt_append, length_justify short, justify, hasAt_append, Nat.zero_add] at here
  rcases here with ⟨⟨headersHere, -⟩, sectionHere⟩
  rw [sectionBytes, Root.pad4, hasAt_append] at sectionHere
  rcases parse_of_hasAt small headersHere with ⟨name, imageRead⟩
  exact ⟨_, imageRead, metadata_of_hasAt filled small room sectionHere.1⟩

end Builder

/-! ## Archives -/

/-- Whether calls ask for an archive in whose tables two bytes are enough for the number of any
row, with names that can be ended by a null character and bases that can be referred to. -/
structure Buildable (calls : List BuilderCall) : Prop where
  names_free : ∀ name ∈ (Contents.ofCalls calls).names, '\x00' ∉ name.toList
  few_references : (Contents.ofCalls calls).references.length < 2 ^ 14
  few_types : (Contents.ofCalls calls).types.length < 2 ^ 14
  few_methods : (Contents.ofCalls calls).methods.length < 2 ^ 16
  bases_tagged : ∀ type ∈ (Contents.ofCalls calls).types, type.base % 4 ≠ 3

instance (calls : List BuilderCall) : Decidable (Buildable calls) :=
  decidable_of_iff
    ((∀ name ∈ (Contents.ofCalls calls).names, '\x00' ∉ name.toList) ∧
      (Contents.ofCalls calls).references.length < 2 ^ 14 ∧
      (Contents.ofCalls calls).types.length < 2 ^ 14 ∧
      (Contents.ofCalls calls).methods.length < 2 ^ 16 ∧
      ∀ type ∈ (Contents.ofCalls calls).types, type.base % 4 ≠ 3)
    ⟨fun ⟨names_free, few_references, few_types, few_methods, bases_tagged⟩ =>
        ⟨names_free, few_references, few_types, few_methods, bases_tagged⟩,
      fun buildable => ⟨buildable.names_free, buildable.few_references, buildable.few_types,
        buildable.few_methods, buildable.bases_tagged⟩⟩

/-- Of an image that is written, what is to be retained of its contents is read. -/
theorem types?_image
    {calls : List BuilderCall}
    (buildable : Buildable calls)
    {form : ImageForm}
    {image : Bytes}
    (written : (Builder.build calls).image? form = some image) :
    types? image = some (Contents.ofCalls calls).retained := by
  have holds := Builder.holds_build calls
  rw [Builder.image?] at written
  split at written
  · rename_i writable
    cases written
    have few : (Builder.build calls).Few := {
      typeRefs := holds.typeRefs.length_eq ▸ buildable.few_references
      typeDefs := holds.typeDefs.length_eq ▸ buildable.few_types
      methods := holds.methods.length_eq ▸ buildable.few_methods }
    have small : ((Builder.build calls).metadata form.pointers).length < 2 ^ 32 := by
      have room := (Builder.build calls).length_metadata_le form.pointers
      have size := writable.size_lt
      omega
    rcases Builder.metadata_image writable.size_lt (hasAt_self _) with
      ⟨image, imageRead, metadataFound⟩
    rcases Builder.describes_written holds buildable.names_free few writable.rows_fit small with
      ⟨metadata, metadataRead, describes⟩
    exact types?_eq_some.2 ⟨image, _, metadata, imageRead, metadataFound, metadataRead,
      describes.typesIn_eq buildable.bases_tagged⟩
  · cases written

/-! ## A sample -/

/-- A class with a constructor and an overloaded static method, and an enumeration. -/
def sampleCalls : List BuilderCall :=
  [.typeRef "System" "Object", .typeRef "System" "Enum",
    .typeDef (some 5) "Windows.Storage" "Query" 0x101
      [⟨".ctor", 0x1806⟩, ⟨"Parse", 0x16⟩, ⟨"Parse", 0x16⟩, ⟨"Close", 0x46⟩],
    .typeDef (some 9) "Windows.Storage" "Kind" 0x101 [⟨"Parse", 0x16⟩]]

/-- The longer image of the sample, with pointers to its methods. -/
def sampleImage : Bytes :=
  ((Builder.build sampleCalls).imageBytes ⟨true, true⟩).toArray

/-- What is to be retained of the sample. -/
def sampleTypes : List RetainedType :=
  [{ space := "Windows.Storage", name := "Query", baseType := "System.Object"
     isSealed := true, members := [".ctor", "Parse", "Parse"] }]

theorem buildable_sampleCalls : Buildable sampleCalls := by
  decide

theorem image?_sampleCalls :
    (Builder.build sampleCalls).image? ⟨true, true⟩ = some sampleImage :=
  if_pos (by decide +kernel)

theorem retained_sampleCalls : (Contents.ofCalls sampleCalls).retained = sampleTypes := by
  decide

theorem types?_sampleImage : types? sampleImage = some sampleTypes := by
  rw [types?_image buildable_sampleCalls image?_sampleCalls, retained_sampleCalls]

/-- The path of a file in the working directory. -/
def samplePath : Files.Path :=
  ⟨"", ["sample.winmd"]⟩

/-- A working directory with one file. -/
def sampleFiles (content : Bytes) : Files.Node :=
  .folder [("sample.winmd", .file content)]

theorem read_sampleFiles (content : Bytes) :
    (sampleFiles content).read samplePath = .ok content := by
  rfl

theorem typesAt?_sampleFiles (content : Bytes) :
    typesAt? (sampleFiles content) samplePath = types? content := by
  rw [typesAt?, read_sampleFiles]

end Archive

namespace Extractor

open WinrtLint.Archive

/--
Reading an archive undoes building it: of every image of every form that calls to a builder
lead to, exactly what is to be retained of what the calls ask for is taken, and nothing is
skipped.
-/
theorem takes_of_build
    {calls : List BuilderCall}
    (buildable : Buildable calls)
    {form : ImageForm}
    {image : Bytes}
    (written : (Builder.build calls).image? form = some image)
    (extractor : Extractor)
    {files : Files.Node}
    {path : Files.Path}
    (stored : files.read path = .ok image) :
    extractor.Takes files path (Contents.ofCalls calls).retained :=
  (takes_iff stored).2 (types?_image buildable written)

theorem takes_of_build_sampleCalls :
    (⟨[]⟩ : Extractor).Takes (sampleFiles sampleImage) samplePath sampleTypes :=
  retained_sampleCalls ▸ takes_of_build buildable_sampleCalls image?_sampleCalls ⟨[]⟩
    (read_sampleFiles sampleImage)

end Extractor

end WinrtLint
