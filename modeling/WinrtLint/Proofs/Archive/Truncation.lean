import WinrtLint.Proofs.Archive.RoundTrip

/-!
# Archives that are cut short or go on

Whatever is read from an archive is asked for first, so bytes behind an archive
that can be read change nothing (`types?_append`).  An archive that is cut
short is therefore either skipped or the cut was behind all that is read of it:
it never gives fewer types, or others.
-/

namespace WinrtLint

namespace Archive

/-- The types of an archive stay the same when bytes follow it. -/
theorem types?_append
    {data : Bytes}
    {types : List RetainedType}
    (readable : types? data = some types)
    (more : Bytes) :
    types? (data ++ more) = some types := by
  rcases types?_eq_some.1 readable with
    ⟨image, blob, metadata, imageRead, metadataFound, metadataRead, typesTaken⟩
  have same : image.data = data := by
    rcases Image.parse_eq_ok.1 imageRead with ⟨_, _, _, _, _, _, rfl⟩
    rfl
  have found := Image.metadata_append metadataFound more
  rw [same] at found
  exact types?_eq_some.2
    ⟨_, blob, metadata, Image.parse_append imageRead more, found, metadataRead, typesTaken⟩

end Archive

namespace Extractor

/--
Of an archive that can be read, every beginning is skipped or gives the same types, and so
does everything that begins with it, which is never skipped.
-/
theorem takes_of_cut_or_padded
    {extractor : Extractor}
    {files : Files.Node}
    {path : Files.Path}
    {data : Bytes}
    {types : List RetainedType}
    (stored : files.read path = .ok data)
    (taken : extractor.Takes files path types) :
    (∀ (extractor : Extractor) (files : Files.Node) (path : Files.Path) (beginning : Bytes),
      beginning.toList <+: data.toList →
      files.read path = .ok beginning →
      extractor.Skips files path ∨ extractor.Takes files path types) ∧
    ∀ (extractor : Extractor) (files : Files.Node) (path : Files.Path) (more : Bytes),
      files.read path = .ok (data ++ more) →
      extractor.Takes files path types := by
  have readable := (takes_iff stored).1 taken
  constructor
  · rintro extractor files path beginning ⟨rest, split⟩ cutStored
    cases outcome : Archive.types? beginning with
    | none => exact Or.inl (extractor.skips_of_types? cutStored outcome)
    | some others =>
        -- The whole archive is the beginning with more bytes, so it has the same types.
        have whole : beginning ++ rest.toArray = data := by
          apply Array.ext'
          rw [Array.toList_append, split]
        have same := Archive.types?_append outcome rest.toArray
        rw [whole, readable] at same
        cases same
        exact Or.inr ((takes_iff cutStored).2 outcome)
  · intro extractor files path more longerStored
    exact (takes_iff longerStored).2 (Archive.types?_append readable more)

open WinrtLint.Archive in
/-- The sample cut behind its headers is skipped or gives the same types, and so does the sample
with a byte behind it, which is never skipped. -/
theorem takes_of_cut_or_padded_sampleImage :
    ((⟨[]⟩ : Extractor).Skips (sampleFiles (sampleImage.extract 0 0x200)) samplePath ∨
      (⟨[]⟩ : Extractor).Takes (sampleFiles (sampleImage.extract 0 0x200)) samplePath
        sampleTypes) ∧
    (⟨[]⟩ : Extractor).Takes (sampleFiles (sampleImage ++ #[0])) samplePath sampleTypes := by
  have stored := read_sampleFiles sampleImage
  have taken : (⟨[]⟩ : Extractor).Takes (sampleFiles sampleImage) samplePath sampleTypes :=
    (takes_iff stored).2 types?_sampleImage
  rcases takes_of_cut_or_padded stored taken with ⟨cut, padded⟩
  refine ⟨cut ⟨[]⟩ _ _ (sampleImage.extract 0 0x200) ?_ (read_sampleFiles _),
    padded ⟨[]⟩ _ _ #[0] (read_sampleFiles _)⟩
  rw [Array.toList_extract, List.extract_eq_take_drop]
  exact List.take_prefix _ _

end Extractor

end WinrtLint
