import WinrtLint.Catalog.Document
import WinrtLint.Proofs.Files.Reading
import WinrtLint.Proofs.Json.Limits
import WinrtLint.Proofs.Json.RoundTrip

/-!
# What comes of loading a catalog

A path leads to a catalog (`IsCatalog`), to a file that is refused with the
reason (`Refused`), or to what loading has no answer for: bytes that are no
text, or JSON beyond the limits of the reader (`Escapes`).  Each of the three
is told from what the file holds, first for the entries of a document (`IsEntry`
and `HasFault`), then for the document and the file.  That loading does what is
said is one lemma for each (`load_of_isCatalog`, `load_of_refused` and
`load_of_escapes`); since there is no fourth case, what comes of loading tells
in turn what the file is (`load_contained`).
-/

namespace WinrtLint

open WinrtLint.Outcome

/-! ## Entries -/

namespace Json.Value

/-- A value that is neither an array nor an object. -/
def IsScalar : Value → Prop
  | .array _ => False
  | .object _ => False
  | _ => True

theorem isSome_key? {value : Value} :
    value.key?.isSome = true ↔ value.IsScalar := by
  cases value <;> simp [key?, IsScalar]

/-- A value that can list static methods: the names in an array, the characters of a text or the
names of an object. -/
def ListsMethods : Value → Prop
  | .array items => ∀ item ∈ items, item.IsScalar
  | .string _ => True
  | .object _ => True
  | _ => False

/-- The value that an entry gives for its static methods, which it may leave out. -/
def methodsField (fields : List (LooseText × Value)) : Value :=
  (field? fields "static_methods").getD (.array [])

/-- An entry that is a type: it has a namespace and a name, lists its methods, and has a name
under which it can be listed where the namespace is empty. -/
inductive IsEntry : Value → Prop where
  | object
      {fields : List (LooseText × Value)}
      {space name : Value}
      (spaced : field? fields "namespace" = some space)
      (named : field? fields "name" = some name)
      (methods : (methodsField fields).ListsMethods)
      (keyed : space.isTruthy = true ∨ name.IsScalar) :
      IsEntry (.object fields)

/-- What is wrong with an entry, by the first fault that is met. -/
inductive HasFault : Value → EntryFault → Prop where
  | noObject {value : Value} (other : ∀ fields, value ≠ .object fields) :
      HasFault value .wrongShape
  | noSpace
      {fields : List (LooseText × Value)}
      (absent : field? fields "namespace" = none) :
      HasFault (.object fields) (.missingField "namespace")
  | noName
      {fields : List (LooseText × Value)}
      {space : Value}
      (spaced : field? fields "namespace" = some space)
      (absent : field? fields "name" = none) :
      HasFault (.object fields) (.missingField "name")
  | noMethods
      {fields : List (LooseText × Value)}
      {space name : Value}
      (spaced : field? fields "namespace" = some space)
      (named : field? fields "name" = some name)
      (unlisted : ¬ (methodsField fields).ListsMethods) :
      HasFault (.object fields) .wrongShape
  | noKey
      {fields : List (LooseText × Value)}
      {space name : Value}
      (spaced : field? fields "namespace" = some space)
      (named : field? fields "name" = some name)
      (methods : (methodsField fields).ListsMethods)
      (empty : space.isTruthy = false)
      (parts : ¬ name.IsScalar) :
      HasFault (.object fields) .wrongShape

/-- An entry is a type or has a fault. -/
theorem isEntry_or_hasFault (value : Value) :
    value.IsEntry ∨ ∃ fault, value.HasFault fault := by
  by_cases shaped : ∃ fields, value = .object fields
  · rcases shaped with ⟨fields, rfl⟩
    cases spaced : field? fields "namespace" with
    | none => exact Or.inr ⟨_, .noSpace spaced⟩
    | some space =>
        cases named : field? fields "name" with
        | none => exact Or.inr ⟨_, .noName spaced named⟩
        | some name =>
            by_cases methods : (methodsField fields).ListsMethods
            · by_cases scalar : name.IsScalar
              · exact Or.inl (.object spaced named methods (Or.inr scalar))
              · cases truthy : space.isTruthy with
                | true => exact Or.inl (.object spaced named methods (Or.inl truthy))
                | false => exact Or.inr ⟨_, .noKey spaced named methods truthy scalar⟩
            · exact Or.inr ⟨_, .noMethods spaced named methods⟩
  · exact Or.inr ⟨_, .noObject (not_exists.1 shaped)⟩

/-- All entries are types, or there is a first one with a fault. -/
theorem sound_or_first_fault (entries : List Value) :
    (∀ entry ∈ entries, entry.IsEntry) ∨
      ∃ before entry after fault, entries = before ++ entry :: after ∧
        (∀ earlier ∈ before, earlier.IsEntry) ∧ entry.HasFault fault := by
  induction entries with
  | nil => exact Or.inl (List.forall_mem_nil _)
  | cons first rest induction =>
      rcases isEntry_or_hasFault first with sound | ⟨fault, faulty⟩
      · rcases induction with all | ⟨before, entry, after, fault, rfl, earlier, faulty⟩
        · exact Or.inl (List.forall_mem_cons.2 ⟨sound, all⟩)
        · exact Or.inr ⟨first :: before, entry, after, fault, rfl,
            List.forall_mem_cons.2 ⟨sound, earlier⟩, faulty⟩
      · exact Or.inr ⟨[], first, rest, fault, rfl, List.forall_mem_nil _, faulty⟩

end Json.Value

namespace WrittenType

open Json.Value

/-- Methods are read from the values that can list them, and from no other. -/
theorem methodsOf_cases (value : Json.Value) :
    (value.ListsMethods ∧ ∃ methods, methodsOf value = .ok methods) ∨
      ¬ value.ListsMethods ∧ methodsOf value = .error .wrongShape := by
  cases value with
  | array items =>
      rw [methodsOf, ListsMethods]
      split
      · rename_i scalars
        simp only [List.all_eq_true, isSome_key?] at scalars
        exact Or.inl ⟨scalars, _, rfl⟩
      · rename_i parts
        simp only [List.all_eq_true, isSome_key?] at parts
        exact Or.inr ⟨parts, rfl⟩
  | string text => exact Or.inl ⟨trivial, _, rfl⟩
  | object fields => exact Or.inl ⟨trivial, _, rfl⟩
  | null => exact Or.inr ⟨id, rfl⟩
  | bool value => exact Or.inr ⟨id, rfl⟩
  | number value => exact Or.inr ⟨id, rfl⟩

/-- The values of an entry that has the needed fields. -/
theorem ofJson_object
    {fields : List (Json.LooseText × Json.Value)}
    {space name : Json.Value}
    (spaced : field? fields "namespace" = some space)
    (named : field? fields "name" = some name) :
    ofJson (.object fields) =
      (methodsOf (methodsField fields)).map fun staticMethods =>
        { space, name, staticMethods
          isSealed := flag fields "is_sealed" true
          isValueType := flag fields "is_value_type" false
          constructible := flag fields "constructible" false } := by
  rw [ofJson, needed, needed, spaced, named, ok_bind, ok_bind, methodsField]
  cases methodsOf ((field? fields "static_methods").getD (.array [])) <;> rfl

theorem isNone_key? {written : WrittenType} :
    written.key?.isNone = true ↔
      written.space.isTruthy = false ∧ ¬ written.name.IsScalar := by
  rw [key?, ← isSome_key?]
  cases written.space.isTruthy <;> simp

end WrittenType

namespace CatalogEntry

open Json.Value

theorem ofJson_of_written
    {value : Json.Value}
    {written : WrittenType}
    (given : WrittenType.ofJson value = .ok written) :
    ofJson value =
      if written.key?.isNone then .error .wrongShape
      else .ok ⟨written.type, if written.isPlain then none else some written⟩ := by
  rw [ofJson, given, ok_bind]
  cases written.key?.isNone <;> rfl

/-- An entry that is a type is read. -/
theorem exists_ofJson {value : Json.Value} (entry : value.IsEntry) :
    ∃ listed, ofJson value = .ok listed := by
  rcases entry with ⟨spaced, named, methods, keyed⟩
  rcases WrittenType.methodsOf_cases (methodsField _) with ⟨-, names, given⟩ | ⟨unlisted, -⟩
  · have written := WrittenType.ofJson_object spaced named
    rw [given] at written
    rw [ofJson_of_written written, if_neg]
    · exact ⟨_, rfl⟩
    · rintro keyless
      rcases WrittenType.isNone_key?.1 keyless with ⟨empty, parts⟩
      rcases keyed with truthy | scalar
      · exact absurd truthy (Bool.eq_false_iff.1 empty)
      · exact parts scalar
  · exact absurd methods unlisted

/-- An entry with a fault is turned down for it. -/
theorem ofJson_of_hasFault
    {value : Json.Value}
    {fault : EntryFault}
    (faulty : value.HasFault fault) :
    ofJson value = .error fault := by
  cases faulty with
  | noObject other =>
      cases value with
      | object fields => exact absurd rfl (other fields)
      | _ => rfl
  | noSpace absent =>
      rw [ofJson, WrittenType.ofJson, WrittenType.needed, absent]
      rfl
  | noName spaced absent =>
      rw [ofJson, WrittenType.ofJson, WrittenType.needed, WrittenType.needed, spaced, absent]
      rfl
  | noMethods spaced named unlisted =>
      rcases WrittenType.methodsOf_cases (methodsField _) with ⟨methods, -⟩ | ⟨-, refused⟩
      · exact absurd methods unlisted
      · rw [ofJson, WrittenType.ofJson_object spaced named, refused]
        rfl
  | noKey spaced named methods empty parts =>
      rcases WrittenType.methodsOf_cases (methodsField _) with ⟨-, names, given⟩ | ⟨unlisted, -⟩
      · have written := WrittenType.ofJson_object spaced named
        rw [given] at written
        rw [ofJson_of_written written, if_pos (WrittenType.isNone_key?.2 ⟨empty, parts⟩)]
      · exact absurd methods unlisted

end CatalogEntry

/-! ## Documents -/

/-- A document that lists entries under `types`. -/
def Json.Value.ListsTypes
    (value : Json.Value)
    (entries : List Json.Value) :
    Prop :=
  ∃ fields, value = .object fields ∧ Json.Value.field? fields "types" = some (.array entries)

namespace Catalog

variable {path : Files.Path} {value : Json.Value}

theorem exists_ofJson
    {entries : List Json.Value}
    (lists : value.ListsTypes entries)
    (sound : ∀ entry ∈ entries, entry.IsEntry) :
    ∃ catalog, ofJson path value = .ok catalog := by
  rcases lists with ⟨fields, rfl, listed⟩
  rcases exists_mapM fun entry inside => CatalogEntry.exists_ofJson (sound entry inside) with
    ⟨results, all⟩
  rw [ofJson, listed]
  dsimp only
  rw [all]
  exact ⟨_, rfl⟩

theorem ofJson_of_unlisted (unlisted : ∀ entries, ¬ value.ListsTypes entries) :
    ofJson path value = .error (.noTypes path) := by
  cases value with
  | object fields =>
      rw [ofJson]
      split
      · rename_i entries listed
        exact absurd ⟨fields, rfl, listed⟩ (unlisted entries)
      · rfl
  | _ => rfl

/-- A document is turned down for the first of its entries that has a fault. -/
theorem ofJson_of_hasFault
    {before after : List Json.Value}
    {entry : Json.Value}
    {fault : EntryFault}
    (lists : value.ListsTypes (before ++ entry :: after))
    (sound : ∀ earlier ∈ before, earlier.IsEntry)
    (faulty : entry.HasFault fault) :
    ofJson path value = .error (.malformedEntry path fault) := by
  rcases lists with ⟨fields, rfl, listed⟩
  have failed : (before ++ entry :: after).mapM CatalogEntry.ofJson = .error fault :=
    mapM_eq_error_iff.2 ⟨before, entry, after, rfl,
      fun earlier inside => CatalogEntry.exists_ofJson (sound earlier inside),
      CatalogEntry.ofJson_of_hasFault faulty⟩
  rw [ofJson, listed]
  dsimp only
  rw [failed]

/-! ## Files -/

/-- The file at a path is a catalog: a JSON document that lists types. -/
def IsCatalog (files : Files.Node) (path : Files.Path) : Prop :=
  ∃ text value entries, files.Holds path text ∧ Json.read text = .ok value ∧
    value.ListsTypes entries ∧ ∀ entry ∈ entries, entry.IsEntry

/-- Why the file at a path is refused as a catalog. -/
inductive Refused (files : Files.Node) (path : Files.Path) :
    CatalogError → Prop where
  | unreadable
      {error : Files.FileError}
      (failed : files.read path = .error error)
      (allowed : ¬ path.HasNull) :
      Refused files path (.unreadable error)
  | notJson
      {text : List Char}
      (holds : files.Holds path text)
      (malformed : Json.read text = .error .malformed) :
      Refused files path (.notJson path)
  | noTypes
      {text : List Char}
      {value : Json.Value}
      (holds : files.Holds path text)
      (read : Json.read text = .ok value)
      (unlisted : ∀ entries, ¬ value.ListsTypes entries) :
      Refused files path (.noTypes path)
  | malformedEntry
      {text : List Char}
      {value entry : Json.Value}
      {before after : List Json.Value}
      {fault : EntryFault}
      (holds : files.Holds path text)
      (read : Json.read text = .ok value)
      (lists : value.ListsTypes (before ++ entry :: after))
      (sound : ∀ earlier ∈ before, earlier.IsEntry)
      (faulty : entry.HasFault fault) :
      Refused files path (.malformedEntry path fault)

/-- Why loading the file at a path neither gives a catalog nor refuses it. -/
inductive Escapes (files : Files.Node) (path : Files.Path) :
    CatalogFailure → Prop where
  | nullInPath (null : path.HasNull) :
      Escapes files path (.nullInPath ⟨.nullCharacter, path⟩)
  | notText (textless : files.HoldsNoText path) : Escapes files path .notText
  | integerTooLong
      {text : List Char}
      {digits : Nat}
      (holds : files.Holds path text)
      (long : Json.read text = .error (.integerTooLong digits)) :
      Escapes files path (.integerTooLong digits)
  | nestedTooDeep
      {text : List Char}
      (holds : files.Holds path text)
      (deep : Json.read text = .error .nestedTooDeep) :
      Escapes files path .nestedTooDeep

variable {files : Files.Node}

theorem load_of_holds {text : List Char} (holds : files.Holds path text) :
    load files path = ofDocument path text := by
  rw [load, Files.Node.readText_eq_ok.2 holds]

theorem ofDocument_of_read
    {text : List Char}
    (read : Json.read text = .ok value) :
    ofDocument path text = (ofJson path value).mapError .refused := by
  rw [ofDocument, read]

/-- A file to which a document was written holds the document. -/
theorem holds_written
    {depth : Nat}
    (textual : Json.Textual depth value)
    (stored : files.read path = .ok (Text.Utf8.encode (Json.write value)).toArray) :
    files.Holds path (Json.write value).toList :=
  -- Reading unifies line feeds, and the text that was written has nothing to unify.
  ⟨_, stored, _, by rw [String.ofList_toList],
    Text.unifyLineFeeds_eq_self (Json.carriageReturn_not_mem_write textual)⟩

theorem load_of_isCatalog (catalog : IsCatalog files path) :
    ∃ loaded, load files path = .ok loaded := by
  rcases catalog with ⟨text, value, entries, holds, read, lists, sound⟩
  rcases exists_ofJson lists sound with ⟨loaded, given⟩
  rw [load_of_holds holds, ofDocument_of_read read, given]
  exact ⟨loaded, rfl⟩

theorem load_of_refused
    {error : CatalogError}
    (refused : Refused files path error) :
    load files path = .error (.refused error) := by
  cases refused with
  | unreadable failed allowed =>
      rw [load, Files.Node.readText_eq_file.2 failed]
      exact if_neg fun null => allowed ((Files.Node.fault_of_read failed).1 null)
  | notJson holds malformed => rw [load_of_holds holds, ofDocument, malformed]
  | noTypes holds read unlisted =>
      rw [load_of_holds holds, ofDocument_of_read read, ofJson_of_unlisted unlisted]
      rfl
  | malformedEntry holds read lists sound faulty =>
      rw [load_of_holds holds, ofDocument_of_read read, ofJson_of_hasFault lists sound faulty]
      rfl

theorem load_of_escapes
    {failure : CatalogFailure}
    (escapes : Escapes files path failure) :
    load files path = .error failure := by
  cases escapes with
  | nullInPath null =>
      have failed : files.read path = .error ⟨.nullCharacter, path⟩ :=
        Files.Node.read_eq_nullCharacter.2 null
      rw [load, Files.Node.readText_eq_file.2 failed]
      rfl
  | notText textless => rw [load, Files.Node.readText_eq_notText.2 textless]
  | integerTooLong holds long => rw [load_of_holds holds, ofDocument, long]
  | nestedTooDeep holds deep => rw [load_of_holds holds, ofDocument, deep]

/-- A path leads to a catalog, to something that is refused, or to something else. -/
theorem isCatalog_or_refused_or_escapes
    (files : Files.Node)
    (path : Files.Path) :
    IsCatalog files path ∨ (∃ error, Refused files path error) ∨
      ∃ failure, Escapes files path failure := by
  cases outcome : files.readText path with
  | error failure =>
      cases failure with
      | notText =>
          exact Or.inr (Or.inr ⟨_, .notText (Files.Node.readText_eq_notText.1 outcome)⟩)
      | file error =>
          by_cases null : path.HasNull
          · exact Or.inr (Or.inr ⟨_, .nullInPath null⟩)
          · have failed := Files.Node.readText_eq_file.1 outcome
            exact Or.inr (Or.inl ⟨_, .unreadable failed null⟩)
  | ok text =>
      have holds := Files.Node.readText_eq_ok.1 outcome
      cases read : Json.read text with
      | error fault =>
          cases fault with
          | malformed => exact Or.inr (Or.inl ⟨_, .notJson holds read⟩)
          | integerTooLong digits => exact Or.inr (Or.inr ⟨_, .integerTooLong holds read⟩)
          | nestedTooDeep => exact Or.inr (Or.inr ⟨_, .nestedTooDeep holds read⟩)
      | ok value =>
          by_cases lists : ∃ entries, value.ListsTypes entries
          · rcases lists with ⟨entries, lists⟩
            rcases Json.Value.sound_or_first_fault entries with
              sound | ⟨before, entry, after, fault, rfl, sound, faulty⟩
            · exact Or.inl ⟨text, value, entries, holds, read, lists, sound⟩
            · exact Or.inr (Or.inl ⟨_, .malformedEntry holds read lists sound faulty⟩)
          · exact Or.inr (Or.inl ⟨_, .noTypes holds read (not_exists.1 lists)⟩)

/-- What comes of loading, with what the file is. -/
theorem load_cases (files : Files.Node) (path : Files.Path) :
    (IsCatalog files path ∧ ∃ loaded, load files path = .ok loaded) ∨
      (∃ error, Refused files path error ∧ load files path = .error (.refused error)) ∨
      ∃ failure, Escapes files path failure ∧ load files path = .error failure := by
  rcases isCatalog_or_refused_or_escapes files path with
    catalog | ⟨error, refused⟩ | ⟨failure, escapes⟩
  · exact Or.inl ⟨catalog, load_of_isCatalog catalog⟩
  · exact Or.inr (Or.inl ⟨error, refused, load_of_refused refused⟩)
  · exact Or.inr (Or.inr ⟨failure, escapes, load_of_escapes escapes⟩)

theorem Escapes.ne_refused
    {failure : CatalogFailure}
    (escapes : Escapes files path failure)
    (error : CatalogError) :
    failure ≠ .refused error := by
  cases escapes <;> exact nofun

theorem exists_load_iff : (∃ loaded, load files path = .ok loaded) ↔ IsCatalog files path := by
  refine ⟨?_, load_of_isCatalog⟩
  rintro ⟨loaded, given⟩
  rcases load_cases files path with ⟨catalog, -⟩ | ⟨error, -, same⟩ | ⟨failure, -, same⟩
  · exact catalog
  · cases given.symm.trans same
  · cases given.symm.trans same

theorem load_eq_refused_iff {error : CatalogError} :
    load files path = .error (.refused error) ↔ Refused files path error := by
  refine ⟨?_, load_of_refused⟩
  intro given
  rcases load_cases files path with ⟨-, loaded, same⟩ | ⟨other, refused, same⟩ |
    ⟨failure, escapes, same⟩
  · cases given.symm.trans same
  · cases given.symm.trans same
    exact refused
  · exact absurd (Except.error.inj (same.symm.trans given)) (escapes.ne_refused error)

theorem load_eq_escape_iff {failure : CatalogFailure} :
    (load files path = .error failure ∧ ∀ error, failure ≠ .refused error) ↔
      Escapes files path failure := by
  refine ⟨?_, fun escapes => ⟨load_of_escapes escapes, escapes.ne_refused⟩⟩
  rintro ⟨given, other⟩
  rcases load_cases files path with ⟨-, loaded, same⟩ | ⟨error, -, same⟩ |
    ⟨another, escapes, same⟩
  · cases given.symm.trans same
  · exact absurd (Except.error.inj (given.symm.trans same)) (other error)
  · cases given.symm.trans same
    exact escapes

/-- Loading gives a catalog or refuses the file with the reason. -/
def Contained (files : Files.Node) (path : Files.Path) : Prop :=
  (∃ loaded, load files path = .ok loaded) ∨ ∃ error, load files path = .error (.refused error)

theorem not_contained_of_escapes
    {failure : CatalogFailure}
    (escapes : Escapes files path failure) :
    ¬ Contained files path := by
  rcases load_eq_escape_iff.2 escapes with ⟨given, other⟩
  rintro (⟨loaded, same⟩ | ⟨error, same⟩)
  · cases given.symm.trans same
  · exact other error (Except.error.inj (given.symm.trans same))

/-- The text in the file at a path has more digits behind each other than an integer may have. -/
def HasLongRun (files : Files.Node) (path : Files.Path) : Prop :=
  ∃ text digits, files.Holds path text ∧ Json.HasRun digits text ∧ Json.longestInteger < digits

/--
Loading gives a catalog exactly where the file is one, and refuses it exactly
where there is a reason to: it cannot be read, is not JSON, lists no types or
has an entry with a fault.  Nothing else comes of a path without a null
character to a file of text in which no integer is too long, whatever its bytes
and values are, but for a document that is nested too deep; and such a document
has more opening brackets than may be open at once.
-/
theorem load_contained (files : Files.Node) (path : Files.Path) :
    ((∃ loaded, load files path = .ok loaded) ↔ IsCatalog files path) ∧
    (∀ error, load files path = .error (.refused error) ↔ Refused files path error) ∧
    (∀ failure, (load files path = .error failure ∧ ∀ error, failure ≠ .refused error) ↔
      Escapes files path failure) ∧
    (¬ path.HasNull → ¬ files.HoldsNoText path → ¬ HasLongRun files path →
      Contained files path ∨ load files path = .error .nestedTooDeep) ∧
    (load files path = .error .nestedTooDeep →
      ∃ text, files.Holds path text ∧ Json.deepestNesting < Json.openings text) := by
  refine ⟨exists_load_iff, fun error => load_eq_refused_iff, fun failure => load_eq_escape_iff,
    ?_, ?_⟩
  · intro allowed hasText short
    rcases load_cases files path with ⟨-, loaded⟩ | ⟨error, -, same⟩ | ⟨failure, escapes, same⟩
    · exact Or.inl (Or.inl loaded)
    · exact Or.inl (Or.inr ⟨error, same⟩)
    · cases escapes with
      | nullInPath null => exact absurd null allowed
      | notText textless => exact absurd textless hasText
      | integerTooLong holds long =>
          rcases Json.showsIn_of_read long with ⟨beyond, run⟩
          exact absurd ⟨_, _, holds, run, beyond⟩ short
      | nestedTooDeep => exact Or.inr same
  · intro given
    cases load_eq_escape_iff.1 ⟨given, nofun⟩ with
    | nestedTooDeep holds deep => exact ⟨_, holds, Json.showsIn_of_read deep⟩

/-- The path of a catalog in the working directory. -/
def catalogPath : Files.Path :=
  ⟨"", ["catalog.json"]⟩

/-- A working directory with a catalog of given bytes. -/
def withCatalog (bytes : List UInt8) : Files.Node :=
  .folder [("catalog.json", .file bytes.toArray)]

theorem read_withCatalog (bytes : List UInt8) :
    (withCatalog bytes).read catalogPath = .ok bytes.toArray :=
  rfl

/-- An entry of odd values, which is a type all the same. -/
def oddEntry : Json.Value :=
  .object [(.whole "namespace", .array [.null]), (.whole "name", .bool true),
    (.whole "static_methods", .text "ab")]

/-- A document with the odd entry and with one that has no name. -/
def namelessDocument : Json.Value :=
  .object [(.whole "types", .array [oddEntry, .object [(.whole "namespace", .text "")]])]

theorem textual_namelessDocument (depth : Nat) :
    Json.Textual (depth + 4) namelessDocument := by
  have odd : Json.Textual (depth + 2) oddEntry := by
    refine .object (by simp) (by decide) ?_
    simp only [List.forall_mem_cons, List.not_mem_nil, false_implies, implies_true, and_true]
    refine ⟨.array ?_, .bool _, .text _⟩
    exact List.forall_mem_singleton.2 .null
  refine .object (by simp) (by simp) (List.forall_mem_singleton.2 (.array ?_))
  refine List.forall_mem_cons.2 ⟨odd, List.forall_mem_singleton.2 (.object (by simp) (by simp) ?_)⟩
  exact List.forall_mem_singleton.2 (.text _)

theorem isEntry_oddEntry : oddEntry.IsEntry := by
  refine .object (by rfl) (by rfl) ?_ (Or.inl rfl)
  exact trivial

/-- The entry without a name is what the file is refused for, whatever the fields of the entry
before it are. -/
theorem load_contained_namelessDocument :
    load (withCatalog (Text.Utf8.encode (Json.write namelessDocument))) catalogPath =
      .error (.refused (.malformedEntry catalogPath (.missingField "name"))) := by
  have textual := textual_namelessDocument 981
  have holds := holds_written textual (read_withCatalog _)
  have lists : namelessDocument.ListsTypes
      ([oddEntry] ++ [.object [(.whole "namespace", .text "")]]) :=
    ⟨_, rfl, rfl⟩
  exact ((load_contained _ _).2.1 _).2 (.malformedEntry holds (Json.read_write textual) lists
    (List.forall_mem_singleton.2 isEntry_oddEntry) (.noName (by rfl) (by rfl)))

/-- A file of one byte that begins no character is neither loaded nor refused. -/
theorem not_contained_strayByte : ¬ Contained (withCatalog [0xFF]) catalogPath := by
  refine not_contained_of_escapes (.notText ⟨_, read_withCatalog _, ?_⟩)
  rw [← Files.textOf?_eq_none, Files.textOf?, Text.Utf8.decode?, Text.Utf8.decode]
  rfl

end Catalog

end WinrtLint
