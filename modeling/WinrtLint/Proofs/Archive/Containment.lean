import WinrtLint.Proofs.Archive.RoundTrip

/-!
# Unreadable archives

An archive that cannot be read is skipped as a whole: it gives no types at all,
is noted once, and the archives before and behind it are read as if it were not
there.  The one thing that is not contained is a path with a null character: no
file can be asked for under such a path, and that ends the reading.
-/

namespace WinrtLint

namespace Archive

/-- Whether the archive at a path cannot be read. -/
def unreadable (files : Files.Node) (path : Files.Path) : Bool :=
  (typesAt? files path).isNone

/-- The types of the archives at some paths that can be read. -/
def typesAtAll (files : Files.Node) (paths : List Files.Path) :
    List RetainedType :=
  paths.flatMap fun path => (typesAt? files path).getD []

/-- Archives that cannot be read give no types. -/
theorem typesAtAll_filter (files : Files.Node) (paths : List Files.Path) :
    typesAtAll files (paths.filter fun path => !unreadable files path) =
      typesAtAll files paths := by
  induction paths with
  | nil => rfl
  | cons path rest induction =>
      cases outcome : typesAt? files path with
      | none =>
          have left : (!unreadable files path) = false := by simp [unreadable, outcome]
          rw [List.filter_cons, left, if_neg Bool.false_ne_true, induction]
          simp [typesAtAll, outcome]
      | some types =>
          have kept : (!unreadable files path) = true := by simp [unreadable, outcome]
          rw [typesAtAll] at induction
          rw [List.filter_cons, kept, if_pos rfl, typesAtAll, List.flatMap_cons, induction]
          rfl

/-! ## Reads that do not ask first -/

/-- The number of the table that a kind of handle refers to. -/
def HandleKind.table : HandleKind → Nat
  | .typeDefinition => 0x02
  | .typeReference => 0x01
  | .typeSpecification => 0x1B

/-- Every table to which a base type can refer is the one of a kind of handle. -/
theorem handle_of_decode
    {value table row : Nat}
    (decoded : CodedIndex.typeDefOrRef.decode value = .ok (table, row)) :
    ∃ kind : HandleKind, kind.table = table ∧ Metadata.handle value = .ok ⟨kind, row⟩ := by
  have numbers : table = 0x02 ∨ table = 0x01 ∨ table = 0x1B := by
    rw [CodedIndex.decode] at decoded
    split at decoded
    · rename_i found
      cases decoded
      simpa [CodedIndex.typeDefOrRef] using List.mem_of_getElem? found
    · cases decoded
  rw [Metadata.handle, decoded]
  rcases numbers with rfl | rfl | rfl
  · exact ⟨.typeDefinition, rfl, rfl⟩
  · exact ⟨.typeReference, rfl, rfl⟩
  · exact ⟨.typeSpecification, rfl, rfl⟩

/-- The row of a type that is defined is there. -/
theorem row?_of_typeDefinition
    {metadata : Metadata}
    {number : Nat}
    {type : TypeDefinition}
    (defined : metadata.typeDefinition number = .ok type) :
    ∃ row, metadata.row? .typeDef type.row = some row := by
  rcases Outcome.bind_eq_ok.1 defined with ⟨entry, entryRead, same⟩
  rcases Outcome.bind_eq_ok.1 entryRead with ⟨row, rowFound, chain⟩
  rcases Outcome.bind_eq_ok.1 chain with ⟨base, -, chain⟩
  rcases Outcome.bind_eq_ok.1 chain with ⟨⟨⟩, -, chain⟩
  rcases Outcome.bind_eq_ok.1 chain with ⟨⟨⟩, -, entrySame⟩
  cases same
  cases entrySame
  rw [Metadata.row] at rowFound
  split at rowFound
  · rename_i found there
    exact ⟨found, there⟩
  · cases rowFound

end Archive

namespace Extractor

open WinrtLint.Archive

/-- One archive that may be asked for gives its types, or is noted as skipped. -/
theorem readArchive_allowed
    (extractor : Extractor)
    (files : Files.Node)
    {path : Files.Path}
    (allowed : ¬ path.HasNull) :
    (extractor.readArchive files path).1.types = .ok ((typesAt? files path).getD []) ∧
      (extractor.readArchive files path).2 =
        ⟨extractor.skipped ++ [path].filter (unreadable files)⟩ := by
  have same : ∀ {left right : Extractor}, left.skipped = right.skipped → left = right := by
    rintro ⟨⟩ ⟨⟩ rfl
    rfl
  cases outcome : typesAt? files path with
  | none =>
      rcases extractor.skips_of_typesAt? allowed outcome with ⟨types, skipped⟩
      exact ⟨types, same (by simp [skipped, unreadable, outcome])⟩
  | some found =>
      rcases extractor.takes_of_typesAt? outcome with ⟨types, skipped⟩
      exact ⟨types, same (by simp [skipped, unreadable, outcome])⟩

/-- Archives that may be asked for are read one after another, those that cannot be read are
skipped, and then come the rest. -/
theorem readArchives_append
    (extractor : Extractor)
    (files : Files.Node)
    {paths : List Files.Path}
    (allowed : ∀ path ∈ paths, ¬ path.HasNull)
    (rest : List Files.Path) :
    let next : Extractor := ⟨extractor.skipped ++ paths.filter (unreadable files)⟩
    (extractor.readArchives files (paths ++ rest)).1.types =
        (next.readArchives files rest).1.types.map (typesAtAll files paths ++ ·) ∧
      (extractor.readArchives files (paths ++ rest)).2 = (next.readArchives files rest).2 := by
  induction paths generalizing extractor with
  | nil =>
      simp only [List.nil_append, List.filter_nil, List.append_nil, typesAtAll,
        List.flatMap_nil, and_true]
      cases (extractor.readArchives files rest).1.types <;> rfl
  | cons path paths induction =>
      rw [List.forall_mem_cons] at allowed
      have first := extractor.readArchive_allowed files allowed.1
      rw [List.cons_append, readArchives]
      generalize extractor.readArchive files path = outcome at first ⊢
      rcases outcome with ⟨⟨warnings, types⟩, next⟩
      dsimp only at first
      rw [first.1, first.2]
      have later := induction ⟨extractor.skipped ++ [path].filter (unreadable files)⟩ allowed.2
      have order : extractor.skipped ++ (path :: paths).filter (unreadable files) =
          extractor.skipped ++ [path].filter (unreadable files) ++
            paths.filter (unreadable files) := by
        rw [List.append_assoc, ← List.filter_append, List.singleton_append]
      dsimp only at later ⊢
      rw [order, later.1, later.2, typesAtAll, typesAtAll, List.flatMap_cons]
      refine ⟨?_, rfl⟩
      cases (readArchives _ files rest).1.types with
      | error error => rfl
      | ok types => simp [Except.map]

theorem readArchives_allowed
    (extractor : Extractor)
    (files : Files.Node)
    {paths : List Files.Path}
    (allowed : ∀ path ∈ paths, ¬ path.HasNull) :
    (extractor.readArchives files paths).1.types = .ok (typesAtAll files paths) ∧
      (extractor.readArchives files paths).2.skipped =
        extractor.skipped ++ paths.filter (unreadable files) := by
  have all := extractor.readArchives_append files allowed []
  rw [List.append_nil] at all
  refine ⟨?_, congrArg Extractor.skipped all.2⟩
  rw [all.1]
  simp [readArchives, Except.map]

/-- A path with a null character ends the reading: what was skipped before it stays noted, and
no types are given. -/
theorem readArchives_refused
    (extractor : Extractor)
    (files : Files.Node)
    {before : List Files.Path}
    (allowed : ∀ path ∈ before, ¬ path.HasNull)
    {path : Files.Path}
    (null : path.HasNull)
    (rest : List Files.Path) :
    (extractor.readArchives files (before ++ path :: rest)).1.types =
        .error ⟨.nullCharacter, path⟩ ∧
      (extractor.readArchives files (before ++ path :: rest)).2.skipped =
        extractor.skipped ++ before.filter (unreadable files) := by
  have upTo := extractor.readArchives_append files allowed (path :: rest)
  rw [upTo.1, upTo.2]
  have refused := refuses_of_hasNull
    ⟨extractor.skipped ++ before.filter (unreadable files)⟩ files null
  rw [Refuses] at refused
  rw [readArchives]
  generalize readArchive _ files path = outcome at refused ⊢
  rcases outcome with ⟨⟨warnings, types⟩, next⟩
  dsimp only at refused
  rw [refused.1]
  exact ⟨rfl, refused.2⟩

theorem readArchive_fails_iff
    (extractor : Extractor)
    (files : Files.Node)
    (path : Files.Path) :
    (∃ error, (extractor.readArchive files path).1.types = .error error) ↔ path.HasNull := by
  constructor
  · rintro ⟨error, failed⟩
    refine Classical.byContradiction fun allowed => ?_
    rw [(extractor.readArchive_allowed files allowed).1] at failed
    cases failed
  · exact fun null => ⟨_, (extractor.refuses_of_hasNull files null).1⟩

/-- Reading archives fails exactly where one of their paths has a null character. -/
theorem readArchives_fails_iff
    (extractor : Extractor)
    (files : Files.Node)
    (paths : List Files.Path) :
    (∃ error, (extractor.readArchives files paths).1.types = .error error) ↔
      ∃ path ∈ paths, path.HasNull := by
  constructor
  · rintro ⟨error, failed⟩
    refine Classical.byContradiction fun none => ?_
    have allowed : ∀ path ∈ paths, ¬ path.HasNull := fun path member null =>
      none ⟨path, member, null⟩
    rw [(extractor.readArchives_allowed files allowed).1] at failed
    cases failed
  · rintro ⟨path, member, null⟩
    -- Reading ends at the first path of the kind.
    have found : (paths.find? fun path => decide path.HasNull).isSome :=
      List.find?_isSome.2 ⟨path, member, decide_eq_true null⟩
    rcases Option.isSome_iff_exists.1 found with ⟨first, firstFound⟩
    rcases List.find?_eq_some_iff_append.1 firstFound with ⟨firstNull, before, rest, rfl, free⟩
    have allowed : ∀ path ∈ before, ¬ path.HasNull := fun path member =>
      of_decide_eq_false (Bool.not_eq_true' _ ▸ free path member)
    exact ⟨_, (extractor.readArchives_refused files allowed (of_decide_eq_true firstNull) rest).1⟩

/--
Unreadable archives are contained.  Unless its path has a null character, reading an archive
either takes all types of the archive or takes none and notes the archive once, and then
archives in a row give the types of those that can be read, whether or not the others are asked
for.  A path with a null character, and nothing else, is fatal: no types are given, and the
archives skipped before it stay noted.  What is read without being asked for first is there:
the bytes of a row, the kind of a handle, and the row of a type whose methods are wanted.
-/
theorem unreadable_archives_contained
    (extractor : Extractor)
    (files : Files.Node)
    (path : Files.Path)
    (paths : List Files.Path) :
    ((∃ error, (extractor.readArchive files path).1.types = .error error) ↔ path.HasNull) ∧
    (path.HasNull → extractor.Refuses files path) ∧
    (¬ path.HasNull →
      (∃ types, typesAt? files path = some types ∧ extractor.Takes files path types) ∨
        typesAt? files path = none ∧ extractor.Skips files path) ∧
    ((∃ error, (extractor.readArchives files paths).1.types = .error error) ↔
      ∃ path ∈ paths, path.HasNull) ∧
    ((∀ path ∈ paths, ¬ path.HasNull) →
      (extractor.readArchives files paths).1.types = .ok (typesAtAll files paths) ∧
      (extractor.readArchives files paths).2.skipped =
        extractor.skipped ++ paths.filter (unreadable files) ∧
      (extractor.readArchives files (paths.filter fun path => !unreadable files path)).1.types =
        (extractor.readArchives files paths).1.types ∧
      (path.HasNull → ∀ rest,
        (extractor.readArchives files (paths ++ path :: rest)).1.types =
          .error ⟨.nullCharacter, path⟩ ∧
        (extractor.readArchives files (paths ++ path :: rest)).2.skipped =
          extractor.skipped ++ paths.filter (unreadable files))) ∧
    (∀ (stream : Bytes) (tables : Tables), Tables.parse stream = .ok tables →
      ∀ (table : Table) (index : Nat), index < tables.layout.count table.number →
        stream.holds (tables.rowStart stream table index) (tables.layout.rowSize table) = true) ∧
    (∀ value table row, CodedIndex.typeDefOrRef.decode value = .ok (table, row) →
      ∃ kind : HandleKind, kind.table = table ∧ Metadata.handle value = .ok ⟨kind, row⟩) ∧
    ∀ (metadata : Metadata) (number : Nat) (type : TypeDefinition),
      metadata.typeDefinition number = .ok type →
        ∃ row, metadata.row? .typeDef type.row = some row := by
  refine ⟨extractor.readArchive_fails_iff files path, extractor.refuses_of_hasNull files, ?_,
    extractor.readArchives_fails_iff files paths, ?_, ?_, fun _ _ _ => handle_of_decode,
    fun _ _ _ => row?_of_typeDefinition⟩
  · intro allowed
    cases outcome : typesAt? files path with
    | none => exact Or.inr ⟨rfl, extractor.skips_of_typesAt? allowed outcome⟩
    | some types => exact Or.inl ⟨types, rfl, extractor.takes_of_typesAt? outcome⟩
  · intro allowed
    have fewer : ∀ path ∈ paths.filter (fun path => !unreadable files path), ¬ path.HasNull :=
      fun path member => allowed path (List.mem_of_mem_filter member)
    rcases extractor.readArchives_allowed files allowed with ⟨types, skipped⟩
    refine ⟨types, skipped, ?_, fun null => extractor.readArchives_refused files allowed null⟩
    rw [types, (extractor.readArchives_allowed files fewer).1, typesAtAll_filter]
  · intro stream tables read table index inside
    exact (Tables.row_of_parse read table inside).1

/-- A path with a null character is fatal, so not every file that cannot be opened is skipped. -/
theorem null_character_fatal :
    ¬ ∀ (extractor : Extractor) (files : Files.Node) (path : Files.Path),
      ∃ types, (extractor.readArchive files path).1.types = .ok types := by
  intro contained
  rcases contained ⟨[]⟩ (.folder []) ⟨"", ["a\x00b"]⟩ with ⟨types, taken⟩
  have null : Files.Path.HasNull ⟨"", ["a\x00b"]⟩ := by decide
  rw [(refuses_of_hasNull ⟨[]⟩ (.folder []) null).1] at taken
  cases taken

/-- A path without a file in the working directory of the sample. -/
def absentPath : Files.Path :=
  ⟨"", ["absent.winmd"]⟩

/-- Of a missing archive and the sample, the types of the sample are taken and the missing one is
noted. -/
theorem unreadable_archives_contained_sampleImage :
    ((⟨[]⟩ : Extractor).readArchives (sampleFiles sampleImage)
        [absentPath, samplePath]).1.types = .ok sampleTypes ∧
      ((⟨[]⟩ : Extractor).readArchives (sampleFiles sampleImage)
        [absentPath, samplePath]).2.skipped = [absentPath] := by
  have missing : ∀ content, typesAt? (sampleFiles content) absentPath = none := by
    intro content
    rfl
  have absent := missing sampleImage
  have present := (typesAt?_sampleFiles sampleImage).trans types?_sampleImage
  have allowed : ∀ path ∈ [absentPath, samplePath], ¬ path.HasNull := by decide
  -- What the files hold does not matter any more.
  generalize sampleFiles sampleImage = files at absent present ⊢
  rcases unreadable_archives_contained ⟨[]⟩ files absentPath [absentPath, samplePath] with
    ⟨-, -, -, -, contained, -⟩
  rcases contained allowed with ⟨types, skipped, -⟩
  refine ⟨types.trans ?_, skipped.trans ?_⟩
  · simp only [typesAtAll, List.flatMap_cons, List.flatMap_nil, absent, present,
      Option.getD_none, Option.getD_some, List.nil_append, List.append_nil]
  · simp only [List.nil_append, List.filter_cons, List.filter_nil, unreadable, absent, present,
      Option.isNone_none, Option.isNone_some, if_true, Bool.false_eq_true, if_false]

end Extractor

end WinrtLint
