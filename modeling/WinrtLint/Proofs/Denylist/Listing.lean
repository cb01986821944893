import WinrtLint.Archive.Extraction
import WinrtLint.Proofs.Text.Lines
import WinrtLint.Proofs.Text.Utf8

/-!
# Reading a denylist back

A listing is the text of a denylist file in which every entry stands on a line
of its own, in quotes and with a comma behind.  Reading a file never yields an
entry that has a line break in it or a quotation mark at one of its ends
(`fitsLine_of_mem_entriesOf`), and an entry without them is just what is read
from its line (`entryOfLine?_formatEntry`), whatever else it looks like.  So a
listing is read back as it was written exactly when all its entries are of that
kind (`load_eq_ok_iff_fitsLine`).  The keys of extracted members are of that
kind when the names in them are (`fitsLine_memberKey`).
-/

namespace WinrtLint.Denylist

open WinrtLint.Text

/-! ## Listings -/

/-- The text in which every entry stands on a line of its own. -/
def listingText : List String → List Char
  | [] => []
  | entry :: rest => (formatEntry entry).toList ++ '\n' :: listingText rest

/-- The bytes of a denylist file in which every entry stands on a line of its own. -/
def listing (entries : List String) : Bytes :=
  (Utf8.encode (String.ofList (listingText entries))).toArray

/--
Whether a line can hold an entry: the entry does not end the line, and no
quotation mark at its ends can be taken for one around it.
-/
structure FitsLine (entry : String) : Prop where
  unbroken : ∀ char ∈ entry.toList, isLineBreak char = false
  noMarkBefore : entry.toList.head? ≠ some '"'
  noMarkBehind : entry.toList.getLast? ≠ some '"'

instance (entry : String) : Decidable (FitsLine entry) :=
  decidable_of_iff
    ((entry.toList.all fun char => !isLineBreak char) = true ∧
      entry.toList.head? ≠ some '"' ∧ entry.toList.getLast? ≠ some '"')
    ⟨fun ⟨unbroken, before, behind⟩ =>
        ⟨by simpa [List.all_eq_true] using unbroken, before, behind⟩,
      fun fits =>
        ⟨by simpa [List.all_eq_true] using fits.unbroken, fits.noMarkBefore, fits.noMarkBehind⟩⟩

theorem FitsLine.bare {entry : String} (fits : FitsLine entry) :
    Bare (· = '"') entry.toList where
  front char first := by
    refine decide_eq_false ?_
    rintro rfl
    exact fits.noMarkBefore first
  back char last := by
    refine decide_eq_false ?_
    rintro rfl
    exact fits.noMarkBehind last

theorem toList_formatEntry (entry : String) :
    (formatEntry entry).toList = '"' :: (entry.toList ++ ['"', ',']) := by
  rw [formatEntry, String.toList_append, String.toList_append, List.append_assoc]
  rfl

/-! ## One line -/

/-- What is read from the line of an entry is the entry. -/
theorem entryOfLine?_formatEntry {entry : String} (fits : FitsLine entry) :
    entryOfLine? (formatEntry entry).toList = some entry := by
  have around : (formatEntry entry).toList = '"' :: (entry.toList ++ ['"'] ++ [',']) := by
    rw [toList_formatEntry, List.append_assoc]
    rfl
  have trimmed : trim (formatEntry entry).toList = (formatEntry entry).toList := by
    rw [around]
    exact dropBothWhile_eq_self (bare_between (by decide) (by decide) _)
  -- The line begins with a quotation mark, so it is no comment whatever the entry is.
  have counts : ((formatEntry entry).toList.isEmpty || begins "#" (formatEntry entry).toList ||
      begins "//" (formatEntry entry).toList) = false := by
    rw [around]
    rfl
  have noComma : dropEndWhile (· = ',') (formatEntry entry).toList =
      '"' :: (entry.toList ++ ['"']) := by
    have last : ∀ char, ('"' :: (entry.toList ++ ['"'])).getLast? = some char →
        decide (char = ',') = false :=
      (bare_between (by decide) (by decide) _).back
    rw [around]
    exact dropEndWhile_before (by simp) last
  have stillTrimmed : trim ('"' :: (entry.toList ++ ['"'])) = '"' :: (entry.toList ++ ['"']) :=
    dropBothWhile_eq_self (bare_between (by decide) (by decide) _)
  have mark : ∀ char ∈ ['"'], decide (char = '"') = true := by simp
  have unquoted : dropBothWhile (· = '"') ('"' :: (entry.toList ++ ['"'])) = entry.toList :=
    dropBothWhile_around mark mark fits.bare
  rw [entryOfLine?]
  simp only [trimmed, counts, noComma, stillTrimmed, unquoted, String.ofList_toList]
  rfl

/-- An entry that is read from a line without line breaks fits a line. -/
theorem fitsLine_of_entryOfLine?
    {line : List Char}
    {entry : String}
    (unbroken : ∀ char ∈ line, isLineBreak char = false)
    (found : entryOfLine? line = some entry) :
    FitsLine entry := by
  simp only [entryOfLine?] at found
  split at found
  · cases found
  · rw [Option.some.injEq] at found
    rw [← found]
    -- All that is done to the line is to drop characters at its ends.
    have inside : dropBothWhile (· = '"') (trim (dropEndWhile (· = ',') (trim line))) <:+: line :=
      (isInfix_dropBothWhile _ _).trans <| (isInfix_dropBothWhile _ _).trans <|
        (List.rdropWhile_prefix _ _).isInfix.trans (isInfix_dropBothWhile _ _)
    have bare := bare_dropBothWhile (· = '"') (trim (dropEndWhile (· = ',') (trim line)))
    constructor
    · intro char member
      rw [String.toList_ofList] at member
      exact unbroken char (inside.subset member)
    · intro first
      rw [String.toList_ofList] at first
      exact absurd (bare.front _ first) (by decide)
    · intro last
      rw [String.toList_ofList] at last
      exact absurd (bare.back _ last) (by decide)

/-! ## All lines -/

theorem fitsLine_of_mem_entriesOf
    {text : List Char}
    {entry : String}
    (read : entry ∈ entriesOf text) :
    FitsLine entry := by
  rw [entriesOf, List.mem_filterMap] at read
  rcases read with ⟨line, among, found⟩
  exact fitsLine_of_entryOfLine? (not_isLineBreak_of_mem_lines among) found

/-- No character of a formatted entry ends its line. -/
theorem FitsLine.formatEntry_unbroken {entry : String} (fits : FitsLine entry) :
    ∀ char ∈ (formatEntry entry).toList, isLineBreak char = false := by
  have mark : isLineBreak '"' = false ∧ isLineBreak ',' = false := by decide
  intro char member
  simp only [toList_formatEntry, List.mem_cons, List.mem_append, List.not_mem_nil,
    or_false] at member
  rcases member with rfl | within | rfl | rfl
  · exact mark.1
  · exact fits.unbroken char within
  · exact mark.1
  · exact mark.2

theorem lines_listingText
    {entries : List String}
    (fit : ∀ entry ∈ entries, FitsLine entry) :
    lines (listingText entries) = entries.map fun entry => (formatEntry entry).toList := by
  induction entries with
  | nil => rfl
  | cons entry rest induction =>
      rw [List.forall_mem_cons] at fit
      rw [listingText, lines_append_lineFeed fit.1.formatEntry_unbroken, induction fit.2,
        List.map_cons]

theorem unifyLineFeeds_listingText
    {entries : List String}
    (fit : ∀ entry ∈ entries, FitsLine entry) :
    unifyLineFeeds (listingText entries) = listingText entries := by
  apply unifyLineFeeds_eq_self
  induction entries with
  | nil => exact List.not_mem_nil
  | cons entry rest induction =>
      rw [List.forall_mem_cons] at fit
      rw [listingText, List.mem_append, List.mem_cons]
      rintro (within | same | later)
      · exact absurd (fit.1.formatEntry_unbroken _ within) (by decide)
      · cases same
      · exact induction fit.2 later

/-- Entries that fit a line are read from their listing in order and with repetitions. -/
theorem entriesOf_listingText
    {entries : List String}
    (fit : ∀ entry ∈ entries, FitsLine entry) :
    entriesOf (listingText entries) = entries := by
  rw [entriesOf, lines_listingText fit]
  induction entries with
  | nil => rfl
  | cons entry rest induction =>
      rw [List.forall_mem_cons] at fit
      rw [List.map_cons, List.filterMap_cons_some (entryOfLine?_formatEntry fit.1),
        induction fit.2]

/-! ## The file -/

/-- A listing does not begin with a byte order mark, nor with a part of one. -/
theorem markedTextOf?_listing (entries : List String) :
    Files.markedTextOf? (listing entries) = some (unifyLineFeeds (listingText entries)) := by
  cases entries with
  | nil => rfl
  | cons entry rest =>
      -- The first byte is that of a quotation mark, and the mark is no byte order mark.
      have text : ∃ later, listingText (entry :: rest) = '"' :: later :=
        ⟨_, by rw [listingText, toList_formatEntry, List.cons_append]⟩
      rw [listing]
      generalize listingText (entry :: rest) = whole at text
      rcases text with ⟨later, rfl⟩
      have noPart : (Utf8.encode (String.ofList ('"' :: later))).isPrefixOf
          Files.byteOrderMark = false := by
        rw [Utf8.encode, String.toList_ofList, List.flatMap_cons]
        rfl
      have decoded : Files.textOf? (Utf8.encode (String.ofList ('"' :: later))).toArray =
          some ('"' :: unifyLineFeeds later) := by
        rw [Files.textOf?, List.toList_toArray, Utf8.decode?_encode, String.toList_ofList]
        rfl
      rw [Files.markedTextOf?, List.toList_toArray, noPart, decoded]
      rfl

/-- A file with a listing is read as text, whatever the entries are. -/
theorem load_eq_of_read
    {files : Files.Node}
    {path : Files.Path}
    {entries : List String}
    (written : files.read path = .ok (listing entries)) :
    load files path = .ok (entriesOf (unifyLineFeeds (listingText entries))) := by
  rw [load, Files.Node.readMarkedText, written]
  simp only [markedTextOf?_listing]
  rfl

theorem load_eq_ok_iff_fitsLine
    {files : Files.Node}
    {path : Files.Path}
    {entries : List String}
    (written : files.read path = .ok (listing entries)) :
    load files path = .ok entries ↔ ∀ entry ∈ entries, FitsLine entry := by
  rw [load_eq_of_read written, Except.ok.injEq]
  constructor
  · intro same entry member
    rw [← same] at member
    exact fitsLine_of_mem_entriesOf member
  · intro fit
    rw [unifyLineFeeds_listingText fit, entriesOf_listingText fit]

/-! ## Extracted members -/

/-- The key of a member fits a line where the names of its owner and its own do. -/
theorem fitsLine_memberKey
    {owner name : String}
    (ownerFits : FitsLine owner)
    (nameFits : FitsLine name) :
    FitsLine (memberKey owner name) := by
  have key : (memberKey owner name).toList = owner.toList ++ '.' :: name.toList := by
    rw [memberKey, String.toList_append, String.toList_append, List.append_assoc]
    rfl
  constructor
  · intro char member
    rw [key, List.mem_append, List.mem_cons] at member
    rcases member with ofOwner | rfl | ofName
    · exact ownerFits.unbroken char ofOwner
    · decide
    · exact nameFits.unbroken char ofName
  · rw [key]
    cases front : owner.toList with
    | nil => simp
    | cons first rest =>
        have different := ownerFits.noMarkBefore
        rwa [front] at different
  · rw [key, List.getLast?_append_cons, List.getLast?_cons]
    cases back : name.toList.getLast? with
    | none => simp
    | some last =>
        have different := nameFits.noMarkBehind
        rwa [back] at different

theorem fitsLine_of_mem_denylistEntries
    {types : List RetainedType}
    {forbidden : NameSet}
    (fit : ∀ type ∈ types, forbidden.contains type.qualifiedName = true →
      FitsLine type.qualifiedName ∧ ∀ member ∈ type.members, FitsLine member)
    {entry : String}
    (extracted : entry ∈ denylistEntries types forbidden) :
    FitsLine entry := by
  rw [denylistEntries, List.mem_flatMap] at extracted
  rcases extracted with ⟨type, among, ofType⟩
  split at ofType
  · rename_i isForbidden
    rcases List.mem_map.1 ofType with ⟨member, retained, rfl⟩
    have names := fit type among isForbidden
    exact fitsLine_memberKey names.1 (names.2 member retained)
  · cases ofType

/--
A listing is read back in order and with repetitions exactly when no entry has
a line break in it or a quotation mark at one of its ends.  The entries of
extracted types are read back if that holds of the names in them.
-/
theorem listing_read_back (files : Files.Node) (path : Files.Path) :
    (∀ entries, files.read path = .ok (listing entries) →
      (load files path = .ok entries ↔ ∀ entry ∈ entries, FitsLine entry)) ∧
    ∀ types forbidden,
      (∀ type ∈ types, forbidden.contains type.qualifiedName = true →
        FitsLine type.qualifiedName ∧ ∀ member ∈ type.members, FitsLine member) →
      files.read path = .ok (listing (denylistEntries types forbidden)) →
      load files path = .ok (denylistEntries types forbidden) := by
  constructor
  · intro entries written
    exact load_eq_ok_iff_fitsLine written
  · intro types forbidden fit written
    rw [load_eq_ok_iff_fitsLine written]
    intro entry extracted
    exact fitsLine_of_mem_denylistEntries fit extracted

/-- The path of a denylist file. -/
def listPath : Files.Path :=
  ⟨"", ["denylist.txt"]⟩

/-- A working directory whose only file is a listing. -/
def holding (entries : List String) : Files.Node :=
  Files.Node.ofList [(listPath, .file (listing entries))]

theorem read_holding (entries : List String) :
    (holding entries).read listPath = .ok (listing entries) := by
  have allowed : Files.Node.pathFault? listPath = none := by decide +kernel
  have short : ¬ Files.Node.longestName < "denylist.txt".utf8ByteSize := by decide +kernel
  have found : Files.Node.follow [] (holding entries) listPath.parts =
      .ok (.file (listing entries)) := by
    simp [holding, listPath, Files.Node.ofList, Files.Node.place, Files.Node.put,
      Files.Node.setEntry, Files.Node.named?, Files.Node.empty, Files.Node.follow, short]
  rw [Files.Node.read, Files.Node.at?, allowed]
  simp only [found]

/-- Entries that look like comments, end in commas and blanks, are empty or come twice. -/
def deceptive : List String :=
  ["# Sample.Open", "// Sample.Open", "", " ,", "Sample.Open", "Sample.Open",
    "Sample.Say \"now\" ,, "]

/-- A type with overloads and a member whose name ends in a comma and a blank. -/
def player : RetainedType :=
  { space := "Sample.Media", name := "Player", baseType := "System.Object",
    members := [".ctor", "Open", "Open", "Close, "] }

/-- Entries that only look odd are read back, and one with a mark in front is not. -/
theorem listing_read_back_deceptive :
    load (holding deceptive) listPath = .ok deceptive ∧
      load (holding ["\"Sample.Open"]) listPath ≠ .ok ["\"Sample.Open"] ∧
      load (holding (denylistEntries [player] (NameSet.ofList ["Sample.Media.Player"])))
          listPath =
        .ok (denylistEntries [player] (NameSet.ofList ["Sample.Media.Player"])) := by
  refine ⟨?_, ?_, ?_⟩
  · exact ((listing_read_back (holding deceptive) listPath).1 deceptive (read_holding _)).2
      (by decide +kernel)
  · intro read
    have fit := ((listing_read_back (holding _) listPath).1 _ (read_holding _)).1 read
    exact absurd fit (by decide +kernel)
  · exact (listing_read_back (holding _) listPath).2 [player] _ (by decide +kernel)
      (read_holding _)

end WinrtLint.Denylist
