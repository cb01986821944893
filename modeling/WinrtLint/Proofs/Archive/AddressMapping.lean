import WinrtLint.Proofs.Archive.ImageHeaders

/-!
# Addresses of an image and their offsets

A section has as many addresses as the larger of its two sizes says.  Where no
address is in two sections, the one that is found first is the only one there
is (`offsetOf_of_mem`), so the order of the sections does not matter, offsets
go up with addresses within a section, and metadata whose addresses are all in
one section stand in the file as they stand there.
-/

namespace WinrtLint.Archive

open WinrtLint.Bytes

namespace Section

/-- Whether an address is one of those of a section. -/
def Has (part : Section) (address : Int) : Prop :=
  part.virtualAddress ≤ address ∧
    address < part.virtualAddress + max part.virtualSize part.rawSize

instance (part : Section) (address : Int) : Decidable (part.Has address) :=
  inferInstanceAs (Decidable (_ ∧ _))

theorem covers_iff {part : Section} {address : Int} :
    part.covers address = true ↔ part.Has address := by
  rw [covers, span, Bool.and_eq_true, decide_eq_true_iff, decide_eq_true_iff, Has]
  omega

def Apart (part other : Section) : Prop :=
  ∀ address, part.Has address → ¬ other.Has address

theorem Apart.symm {part other : Section} (apart : part.Apart other) :
    other.Apart part := by
  intro address inOther inPart
  exact apart address inPart inOther

/-- Sections are apart where one has no addresses or ends before the other begins. -/
theorem apart_iff {part other : Section} :
    part.Apart other ↔
      part.span = 0 ∨ other.span = 0 ∨
        part.virtualAddress + part.span ≤ other.virtualAddress ∨
        other.virtualAddress + other.span ≤ part.virtualAddress := by
  simp only [Apart, Has, span]
  constructor
  · intro apart
    -- If both had addresses and overlapped, they would share the later of their first ones.
    have shared := apart (max part.virtualAddress other.virtualAddress)
    omega
  · intro separate address
    omega

instance (part other : Section) : Decidable (part.Apart other) :=
  decidable_of_iff _ apart_iff.symm

theorem offsetOf_eq
    {part : Section}
    {address : Int}
    (inside : part.Has address) :
    (part.offsetOf address : Int) = address - part.virtualAddress + part.rawOffset := by
  rw [Has] at inside
  rw [offsetOf]
  omega

/-- Of sections that are apart, the one that has an address is found for it. -/
theorem find?_covers
    {sections : List Section}
    (apart : sections.Pairwise Apart)
    {part : Section}
    (member : part ∈ sections)
    {address : Int}
    (inside : part.Has address) :
    (sections.find? fun other => other.covers address) = some part := by
  induction sections with
  | nil => cases member
  | cons first rest induction =>
      rw [List.pairwise_cons] at apart
      by_cases here : first.covers address = true
      · simp only [List.find?_cons, here]
        rcases List.mem_cons.1 member with rfl | later
        · rfl
        · exact absurd inside (apart.1 part later address (covers_iff.1 here))
      · simp only [List.find?_cons, here]
        rcases List.mem_cons.1 member with rfl | later
        · exact absurd (covers_iff.2 inside) here
        · exact induction apart.2 later

end Section

namespace Image

variable {image : Image} {part : Section} {address : Int}

theorem offsetOf_of_mem
    (apart : image.sections.Pairwise Section.Apart)
    (member : part ∈ image.sections)
    (inside : part.Has address) :
    image.offsetOf address = .ok (part.offsetOf address) := by
  rw [offsetOf, Section.find?_covers apart member inside]

theorem offsetOf_of_outside
    (outside : ∀ part ∈ image.sections, ¬ part.Has address) :
    image.offsetOf address = .error (.addressOutside address) := by
  have none : (image.sections.find? fun part => part.covers address) = none := by
    rw [List.find?_eq_none]
    intro part member covered
    exact outside part member (Section.covers_iff.1 covered)
  rw [offsetOf, none]

theorem offsetOf_perm
    (apart : image.sections.Pairwise Section.Apart)
    {sections : List Section}
    (same : sections.Perm image.sections)
    (address : Int) :
    ({ image with sections } : Image).offsetOf address = image.offsetOf address := by
  have apart' : sections.Pairwise Section.Apart :=
    (same.pairwise_iff fun apart => apart.symm).2 apart
  by_cases covered : ∃ part ∈ image.sections, part.Has address
  · rcases covered with ⟨part, member, inside⟩
    rw [offsetOf_of_mem apart member inside]
    exact offsetOf_of_mem apart' (same.mem_iff.2 member) inside
  · have outside : ∀ part ∈ image.sections, ¬ part.Has address :=
      fun part member inside => covered ⟨part, member, inside⟩
    rw [offsetOf_of_outside outside]
    exact offsetOf_of_outside fun part member => outside part (same.mem_iff.1 member)

theorem offsetOf_add
    (apart : image.sections.Pairwise Section.Apart)
    (member : part ∈ image.sections)
    {step : Int}
    (first : part.Has address)
    (second : part.Has (address + step)) :
    ∃ offset next, image.offsetOf address = .ok offset ∧
      image.offsetOf (address + step) = .ok next ∧ (next : Int) = offset + step := by
  refine ⟨_, _, offsetOf_of_mem apart member first, offsetOf_of_mem apart member second, ?_⟩
  rw [Section.offsetOf_eq first, Section.offsetOf_eq second]
  omega

/-! ## Metadata -/

/-- Whether the header of the common language infrastructure says that the metadata are in a
directory. -/
def LeadsTo (image : Image) (directory : Directory) : Prop :=
  ∃ header, image.offsetOf image.cliDirectory.address = .ok header ∧
    directory = ⟨image.data.word (header + 8) 4, image.data.word (header + 12) 4⟩

/-- Metadata whose addresses are all in one section are read from the offsets of these. -/
theorem getElem?_metadata
    (apart : image.sections.Pairwise Section.Apart)
    {blob : Bytes}
    (found : image.metadata = .ok (some blob)) :
    ∃ directory, image.LeadsTo directory ∧ blob.size = directory.size ∧ 0 < directory.size ∧
      ∀ part ∈ image.sections,
        (∀ place < directory.size, part.Has (directory.address + place)) →
        ∀ place < directory.size, ∃ offset byte,
          image.offsetOf (directory.address + place) = .ok offset ∧
          image.data[offset]? = some byte ∧ blob[place]? = some byte := by
  rcases metadata_eq_ok_some.1 found with
    ⟨-, header, headerFound, -, directory, announced, filled, start, startFound, reach, rfl⟩
  have size := length_slice reach
  rw [Array.length_toList] at size
  have positive : 0 < directory.size := by
    simp only [Directory.isEmpty, Bool.or_eq_false_iff, decide_eq_false_iff_not] at filled
    omega
  refine ⟨directory, ⟨header, headerFound, announced⟩, size, positive, ?_⟩
  intro part member inside place short
  have first : part.Has directory.address := by
    simpa using inside 0 positive
  rcases offsetOf_add apart member first (inside place short) with
    ⟨start', offset, startFound', offsetFound, along⟩
  rw [startFound] at startFound'
  cases startFound'
  have within : place < (image.data.slice start directory.size).size := by rwa [size]
  have there := (hasAt_slice image.data start directory.size).getElem? within
  have sameOffset : offset = start + place := by omega
  rw [Array.getElem_toList, ← sameOffset] at there
  exact ⟨offset, _, offsetFound, there, Array.getElem?_eq_getElem within⟩

/--
Where no address is in two sections, addresses are mapped alike in every order of the sections,
an address behind another one of its section is mapped as far behind it, and metadata that lie
within a section are, byte for byte, what the file has at the offsets of their addresses.
-/
theorem addresses_mapped_contiguously
    {image : Image}
    (apart : image.sections.Pairwise Section.Apart) :
    (∀ sections : List Section, sections.Perm image.sections → ∀ address,
      ({ image with sections } : Image).offsetOf address = image.offsetOf address) ∧
    (∀ part ∈ image.sections, ∀ address step : Int,
      part.Has address → part.Has (address + step) →
      ∃ offset next, image.offsetOf address = .ok offset ∧
        image.offsetOf (address + step) = .ok next ∧ (next : Int) = offset + step) ∧
    ∀ blob, image.metadata = .ok (some blob) →
      ∃ directory, image.LeadsTo directory ∧ blob.size = directory.size ∧ 0 < directory.size ∧
        ∀ part ∈ image.sections,
          (∀ place < directory.size, part.Has (directory.address + place)) →
          ∀ place < directory.size, ∃ offset byte,
            image.offsetOf (directory.address + place) = .ok offset ∧
            image.data[offset]? = some byte ∧ blob[place]? = some byte := by
  refine ⟨fun _ same => offsetOf_perm apart same, ?_, fun _ found => getElem?_metadata apart found⟩
  intro part member address step first second
  exact offsetOf_add apart member first second

/-- An image whose second section has the header and whose first one has the metadata; a section
without addresses stands among those of the metadata. -/
def splitImage : Image where
  data := #[72, 0, 0, 0, 2, 0, 5, 0, 0, 0x20, 0, 0, 4, 0, 0, 0, 10, 20, 30, 40]
  sections :=
    [⟨".rsrc", 0x2000, 4, 16, 2⟩, ⟨".text", 0x1000, 16, 0, 12⟩, ⟨".pad", 0x2001, 0, 7, 0⟩]
  cliDirectory := ⟨0x1000, 72⟩

theorem addresses_mapped_contiguously_splitImage :
    splitImage.sections.Pairwise Section.Apart ∧
      splitImage.metadata = .ok (some #[10, 20, 30, 40]) ∧
      (∀ address, ({ splitImage with sections := splitImage.sections.reverse } : Image).offsetOf
        address = splitImage.offsetOf address) ∧
      (∃ offset next, splitImage.offsetOf 0x1002 = .ok offset ∧
        splitImage.offsetOf (0x1002 + 9) = .ok next ∧ (next : Int) = offset + 9) ∧
      ∃ directory, splitImage.LeadsTo directory ∧ directory.size = 4 ∧
        ∃ offset byte, splitImage.offsetOf (directory.address + (3 : Nat)) = .ok offset ∧
          splitImage.data[offset]? = some byte ∧ (#[10, 20, 30, 40] : Bytes)[3]? = some byte := by
  have apart : splitImage.sections.Pairwise Section.Apart := by decide
  have found : splitImage.metadata = .ok (some #[10, 20, 30, 40]) := by decide
  rcases addresses_mapped_contiguously apart with ⟨orders, steps, metadata⟩
  rcases metadata _ found with ⟨directory, leads, size, -, bytes⟩
  have here : directory = ⟨0x2000, 4⟩ := by
    rcases leads with ⟨header, headerFound, announced⟩
    have first : splitImage.offsetOf splitImage.cliDirectory.address = .ok 0 := by decide
    rw [first] at headerFound
    cases headerFound
    exact announced.trans (by decide)
  have inside : ∀ place < directory.size,
      (⟨".rsrc", 0x2000, 4, 16, 2⟩ : Section).Has (directory.address + place) := by
    rw [here]
    decide
  refine ⟨apart, found, orders _ (List.reverse_perm _), ?_, directory, leads, size.symm,
    bytes _ (by decide) inside 3 (by rw [here]; decide)⟩
  exact steps ⟨".text", 0x1000, 16, 0, 12⟩ (by decide) _ _ (by decide) (by decide)

end Image

end WinrtLint.Archive
