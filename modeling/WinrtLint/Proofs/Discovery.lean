import Mathlib.Data.List.Induction
import Mathlib.Data.List.Nodup
import WinrtLint.Discovery
import WinrtLint.Proofs.Files.Listing
import WinrtLint.Proofs.Text.Utf8

/-!
# What the search for sources finds

What is found at one path is told by the tree alone: the file that is there, or
the files to which names lead down from the folder that is there, if no name is
passed over (`FoundAt`).  The list that is found increases by the parts of its
paths, and increasing lists with the same members are equal
(`eq_of_same_members`).  So neither the order of the given paths counts nor how
often one is given, and searching at what was found finds it again
(`search_exact`).

The search asks the file system for every folder below a given one and for all
that is named like a source.  Where one of these is at a path that is too long
(`OverlongAt`), it fails, whatever else there is to find.

Two things are left aside.  The files are those below the working directory, so
there is nothing at an absolute path, nor at one that leads above that directory
(`Node.pathFault?`, `Node.follow`).  And folders may nest to any depth here,
where a listing that calls itself for every folder gives out at the recursion
limit of its interpreter, around a thousand folders deep.
-/

namespace WinrtLint.Text.Ascii

theorem le_iff_toNat {left right : Char} :
    left ≤ right ↔ left.toNat ≤ right.toNat :=
  UInt32.le_iff_toNat_le

/-- The characters that have a given small letter are that letter and its capital. -/
theorem lowerChar_eq_iff
    {char small capital : Char}
    (isSmall : 'a' ≤ small ∧ small ≤ 'z')
    (above : capital.toNat + 32 = small.toNat) :
    lowerChar char = small ↔ char = small ∨ char = capital := by
  have least : 97 ≤ small.toNat := le_iff_toNat.1 isSmall.1
  have greatest : small.toNat ≤ 122 := le_iff_toNat.1 isSmall.2
  have range : ('A' ≤ char ∧ char ≤ 'Z') ↔ (65 ≤ char.toNat ∧ char.toNat ≤ 90) :=
    and_congr le_iff_toNat le_iff_toNat
  rw [lowerChar, ← Char.toNat_inj (d := capital)]
  by_cases inRange : 'A' ≤ char ∧ char ≤ 'Z'
  · have bounds := range.1 inRange
    have different : char ≠ small := by
      rintro rfl
      omega
    rw [if_pos inRange, or_iff_right different, ← Char.toNat_inj,
      Utf8.toNat_ofNat_of_isValidChar (Or.inl (by omega)), ← above, Nat.add_right_cancel_iff]
  · have different : char.toNat ≠ capital.toNat := by
      intro same
      exact inRange (range.2 (by omega))
    rw [if_neg inRange, or_iff_left different]

end WinrtLint.Text.Ascii

namespace WinrtLint.Discovery

open Files

/-! ## Names of sources -/

/-- The endings of the names of C# files. -/
def sourceEndings : List String :=
  [".cs", ".cS", ".Cs", ".CS"]

/-- A name of a C# file has something in front of the ending. -/
def IsSourceName (name : String) : Prop :=
  ∃ stem ending, stem ≠ "" ∧ ending ∈ sourceEndings ∧ name = stem ++ ending

theorem mem_sourceEndings {ending : String} :
    ending ∈ sourceEndings ↔ ∃ next last, ending = String.ofList ['.', next, last] ∧
      Text.Ascii.lowerChar next = 'c' ∧ Text.Ascii.lowerChar last = 's' := by
  constructor
  · intro listed
    simp only [sourceEndings, List.mem_cons, List.not_mem_nil, or_false] at listed
    rcases listed with rfl | rfl | rfl | rfl
    · exact ⟨'c', 's', rfl, rfl, rfl⟩
    · exact ⟨'c', 'S', rfl, rfl, rfl⟩
    · exact ⟨'C', 's', rfl, rfl, rfl⟩
    · exact ⟨'C', 'S', rfl, rfl, rfl⟩
  · rintro ⟨next, last, rfl, lowNext, lowLast⟩
    have nextCases : next = 'c' ∨ next = 'C' :=
      (Text.Ascii.lowerChar_eq_iff (by decide) rfl).1 lowNext
    have lastCases : last = 's' ∨ last = 'S' :=
      (Text.Ascii.lowerChar_eq_iff (by decide) rfl).1 lowLast
    rcases nextCases with rfl | rfl <;> rcases lastCases with rfl | rfl <;> decide

variable {files : Node} {path source : Path} {paths others : List Path}

theorem isSource_iff : isSource path = true ↔ IsSourceName path.name := by
  have letters : ".cs".toList = ['.', 'c', 's'] := rfl
  rw [isSource, decide_eq_true_eq, Path.suffix, Text.Ascii.lower, ← String.toList_inj,
    String.toList_ofList, letters]
  constructor
  · intro lowered
    split at lowered
    · rename_i first before next after cut
      rw [String.toList_ofList, List.map_cons, List.map_cons] at lowered
      rcases List.cons.inj lowered with ⟨-, lowered⟩
      rcases List.cons.inj lowered with ⟨lowNext, lowered⟩
      rcases List.map_eq_singleton_iff.1 lowered with ⟨last, rfl, lowLast⟩
      rcases Text.cutLast?_eq_some.1 cut with ⟨sides, -⟩
      refine ⟨String.ofList (first :: before), String.ofList ['.', next, last], ?_,
        mem_sourceEndings.2 ⟨next, last, rfl, lowNext, lowLast⟩, ?_⟩
      · rw [Ne, String.ofList_eq_empty_iff]
        exact List.cons_ne_nil _ _
      · rw [← String.toList_inj, sides, String.toList_append, String.toList_ofList,
          String.toList_ofList]
    · cases lowered
  · rintro ⟨stem, ending, nonempty, listed, name⟩
    rcases mem_sourceEndings.1 listed with ⟨next, last, rfl, lowNext, lowLast⟩
    have someStem : stem.toList ≠ [] := fun none => nonempty (String.toList_eq_nil_iff.1 none)
    rcases List.exists_cons_of_ne_nil someStem with ⟨first, before, stemLetters⟩
    have noDot : '.' ∉ [next, last] := by
      intro member
      rcases List.mem_cons.1 member with rfl | later
      · cases lowNext
      · rw [← List.mem_singleton.1 later] at lowLast
        cases lowLast
    have cut : Text.cutLast? '.' path.name.toList = some (first :: before, [next, last]) := by
      refine Text.cutLast?_eq_some.2 ⟨?_, noDot⟩
      rw [name, String.toList_append, String.toList_ofList, stemLetters]
    rw [cut]
    dsimp only
    rw [String.toList_ofList, List.map_cons, List.map_cons, List.map_singleton, lowNext, lowLast]
    rfl

theorem parts_ne_nil (named : IsSourceName path.name) : path.parts ≠ [] := by
  rcases named with ⟨stem, ending, nonempty, -, name⟩
  intro none
  rw [Path.name, none] at name
  have empty : stem = "" := (String.append_eq_empty_iff.1 name.symm).1
  exact nonempty empty

/-! ## What is found -/

/-- A C# file is found at a path: it is there itself, or it stands below the folder that is there,
and no name on the way down is passed over. -/
inductive FoundAt (files : Node) (path : Path) : Path → Prop
  | itself
      {content : Bytes}
      (isFile : files.at? path = .ok (.file content))
      (named : IsSourceName path.name) :
      FoundAt files path path
  | below
      {entries : List (String × Node)}
      {parts : List String}
      {content : Bytes}
      (isFolder : files.at? path = .ok (.folder entries))
      (inside : (Node.folder entries).below? parts = some (.file content))
      (named : IsSourceName (path.below parts).name)
      (kept : ∀ part ∈ parts, part ∉ excludedNames) :
      FoundAt files path (path.below parts)

theorem isExcluded_eq_false {parts : List String} :
    isExcluded parts = false ↔ ∀ part ∈ parts, part ∉ excludedNames := by
  simp [isExcluded]

theorem mem_sourcesAt (proper : files.Proper) :
    source ∈ sourcesAt files path ↔ FoundAt files path source := by
  rw [sourcesAt]
  constructor
  · intro listed
    split at listed
    · cases listed
    · rename_i content isFile
      split at listed
      · rename_i named
        rw [List.mem_singleton.1 listed]
        exact .itself isFile (isSource_iff.1 named)
      · cases listed
    · rename_i entries isFolder
      have properFolder := (proper.of_at? isFolder).1
      rcases List.mem_map.1 listed with ⟨parts, chosen, rfl⟩
      rcases List.mem_filter.1 chosen with ⟨among, passes⟩
      rw [Bool.and_eq_true, Bool.not_eq_true'] at passes
      rcases Node.mem_onlyFiles.1 among with ⟨content, member⟩
      exact .below isFolder (properFolder.mem_nodesAmong.1 member).2 (isSource_iff.1 passes.1)
        (isExcluded_eq_false.1 passes.2)
  · intro found
    cases found with
    | itself isFile named =>
        rw [isFile]
        dsimp only
        rw [if_pos (isSource_iff.2 named)]
        exact List.mem_singleton_self _
    | @below entries parts content isFolder inside named kept =>
        rw [isFolder]
        have deeper := Node.ne_nil_of_below?_file inside
        have member := (proper.of_at? isFolder).1.mem_nodesAmong.2 ⟨deeper, inside⟩
        refine List.mem_map_of_mem (List.mem_filter.2 ⟨Node.mem_onlyFiles.2 ⟨_, member⟩, ?_⟩)
        rw [Bool.and_eq_true, Bool.not_eq_true']
        exact ⟨isSource_iff.2 named, isExcluded_eq_false.2 kept⟩

theorem mem_flatMap_sourcesAt (proper : files.Proper) :
    source ∈ paths.flatMap (sourcesAt files) ↔ ∃ path ∈ paths, FoundAt files path source := by
  rw [List.mem_flatMap]
  exact exists_congr fun path => and_congr_right fun _ => mem_sourcesAt proper

theorem mem_discover (proper : files.Proper) :
    source ∈ discover files paths ↔ ∃ path ∈ paths, FoundAt files path source := by
  rw [discover, List.mem_mergeSort, List.mem_eraseDups, mem_flatMap_sourcesAt proper]

theorem FoundAt.named (found : FoundAt files path source) :
    IsSourceName source.name := by
  cases found with
  | itself _ named => exact named
  | below _ _ named _ => exact named

theorem FoundAt.isWay
    (proper : files.Proper)
    (found : FoundAt files path source) :
    source.IsWay := by
  cases found with
  | itself isFile _ => exact (proper.of_at? isFile).2
  | below isFolder inside _ _ =>
      rcases proper.of_at? isFolder with ⟨properFolder, way⟩
      exact way.below (properFolder.of_below? inside).2

/-! ## The order of what is found -/

/-- A path stands before another one if its parts do, compared one after another. -/
def Before (left right : Path) : Prop :=
  List.Lex (· < ·) left.parts right.parts

instance (left right : Path) : Decidable (Before left right) :=
  List.decidableLT left.parts right.parts

theorem Before.asymm {left right : Path} (before : Before left right) :
    ¬ Before right left :=
  List.lt_asymm before

theorem Before.ne {left right : Path} (before : Before left right) :
    left ≠ right := by
  rintro rfl
  exact before.asymm before

theorem notLater_iff {left right : Path} :
    left.notLater right = true ↔ ¬ List.Lex (· < ·) right.components left.components := by
  rw [Path.notLater, Bool.not_eq_true', ← Bool.not_eq_true]
  exact not_congr List.lex_eq_true_iff_lt

theorem notLater_trans
    {first second third : Path}
    (left : first.notLater second = true)
    (right : second.notLater third = true) :
    first.notLater third = true :=
  notLater_iff.2 (List.le_trans (notLater_iff.1 left) (notLater_iff.1 right))

theorem notLater_total (left right : Path) :
    (left.notLater right || right.notLater left) = true := by
  rw [Bool.or_eq_true, notLater_iff, notLater_iff]
  exact List.le_total left.components right.components

theorem before_of_notLater
    {left right : Path}
    (leftWay : left.IsWay)
    (rightWay : right.IsWay)
    (leftFurther : left.parts ≠ [])
    (rightFurther : right.parts ≠ [])
    (differ : left ≠ right)
    (notLater : left.notLater right = true) :
    Before left right := by
  rw [notLater_iff, leftWay.components_eq leftFurther, rightWay.components_eq rightFurther]
    at notLater
  by_contra notBefore
  exact differ (leftWay.eq_of_parts rightWay (List.le_antisymm notLater notBefore))

/-- Increasing lists of the same paths cannot differ in their order. -/
theorem eq_of_same_members
    {left right : List Path}
    (leftOrdered : left.Pairwise Before)
    (rightOrdered : right.Pairwise Before)
    (same : ∀ path, path ∈ left ↔ path ∈ right) :
    left = right := by
  have rearranged : left.Perm right :=
    (List.perm_ext_iff_of_nodup (leftOrdered.imp Before.ne) (rightOrdered.imp Before.ne)).2 same
  exact rearranged.eq_of_pairwise (fun _ _ _ _ less greater => absurd greater less.asymm)
    leftOrdered rightOrdered

theorem nodup_eraseDups
    {Element : Type}
    [DecidableEq Element]
    (list : List Element) :
    list.eraseDups.Nodup := by
  induction list using List.reverseRecOn with
  | nil => exact List.nodup_nil
  | append_singleton list last induction =>
      rw [List.eraseDups_append]
      by_cases earlier : last ∈ list
      · simpa [List.removeAll, earlier] using induction
      · have both : (list.eraseDups.concat last).Nodup :=
          (List.nodup_concat _ _).2 ⟨fun member => earlier (List.mem_eraseDups.1 member), induction⟩
        simpa [List.removeAll, earlier, List.eraseDups_cons] using both

theorem pairwise_sorted
    {found : List Path}
    (ways : ∀ source ∈ found, source.IsWay ∧ source.parts ≠ []) :
    (found.eraseDups.mergeSort Path.notLater).Pairwise Before := by
  have sorted : (found.eraseDups.mergeSort Path.notLater).Pairwise
      fun left right => left.notLater right = true :=
    @List.pairwise_mergeSort Path Path.notLater (fun _ _ _ => notLater_trans) notLater_total _
  have apart : (found.eraseDups.mergeSort Path.notLater).Nodup :=
    (List.mergeSort_perm _ _).nodup_iff.2 (nodup_eraseDups found)
  refine (sorted.and apart).imp_of_mem ?_
  intro left right leftMember rightMember both
  rw [List.mem_mergeSort, List.mem_eraseDups] at leftMember rightMember
  rcases ways left leftMember with ⟨leftWay, leftFurther⟩
  rcases ways right rightMember with ⟨rightWay, rightFurther⟩
  exact before_of_notLater leftWay rightWay leftFurther rightFurther both.2 both.1

theorem pairwise_discover (proper : files.Proper) :
    (discover files paths).Pairwise Before := by
  apply pairwise_sorted
  intro source member
  rcases List.mem_flatMap.1 member with ⟨path, -, listed⟩
  have found := (mem_sourcesAt proper).1 listed
  exact ⟨found.isWay proper, parts_ne_nil found.named⟩

/-- What is found depends on the paths that are given, not on their order or how often. -/
theorem discover_congr
    (proper : files.Proper)
    (same : ∀ path, path ∈ others ↔ path ∈ paths) :
    discover files others = discover files paths := by
  apply eq_of_same_members (pairwise_discover proper) (pairwise_discover proper)
  intro source
  rw [mem_discover proper, mem_discover proper]
  exact exists_congr fun path => and_congr_left fun _ => same path

/-! ## Paths that are too long -/

/-- Below the folder at a path the search asks for what stands at another one, which is too long. -/
inductive OverlongAt (files : Node) (path : Path) : Path → Prop
  | intro
      {entries : List (String × Node)}
      {parts : List String}
      {node : Node}
      (isFolder : files.at? path = .ok (.folder entries))
      (deeper : parts ≠ [])
      (inside : (Node.folder entries).below? parts = some node)
      (asked : (∃ inner, node = .folder inner) ∨ IsSourceName (path.below parts).name)
      (long : Node.longestPath < (path.below parts).text.utf8ByteSize) :
      OverlongAt files path (path.below parts)

/-- Nothing that the search asks for is at a path that is too long. -/
def WithinReach (files : Node) (paths : List Path) : Prop :=
  ∀ path ∈ paths, ∀ place, ¬ OverlongAt files path place

theorem isAskedFor_iff {node : Node} :
    isAskedFor path node = true ↔ (∃ inner, node = .folder inner) ∨ IsSourceName path.name := by
  cases node with
  | file content => simp [isAskedFor, isSource_iff]
  | folder entries => simp [isAskedFor]

theorem tooLong?_eq_some
    (proper : files.Proper)
    {error : FileError}
    (found : tooLong? files path = some error) :
    error.fault = .nameTooLong ∧ OverlongAt files path error.path := by
  rw [tooLong?] at found
  split at found
  · rename_i entries isFolder
    rcases List.exists_of_findSome?_eq_some found with ⟨⟨parts, node⟩, listed, chosen⟩
    rcases (proper.of_at? isFolder).1.mem_nodesAmong.1 listed with ⟨deeper, inside⟩
    dsimp only at chosen
    split at chosen
    · rename_i long
      cases chosen
      rw [Bool.and_eq_true, isAskedFor_iff, decide_eq_true_eq] at long
      exact ⟨rfl, .intro isFolder deeper inside long.1 long.2⟩
    · cases chosen
  · cases found

theorem tooLong?_eq_none (proper : files.Proper) :
    tooLong? files path = none ↔ ∀ place, ¬ OverlongAt files path place := by
  constructor
  · rintro none place ⟨isFolder, deeper, inside, asked, long⟩
    rw [tooLong?, isFolder] at none
    have listed := (proper.of_at? isFolder).1.mem_nodesAmong.2 ⟨deeper, inside⟩
    have passed := List.findSome?_eq_none_iff.1 none _ listed
    dsimp only at passed
    rw [if_pos] at passed
    · cases passed
    · rw [Bool.and_eq_true, isAskedFor_iff, decide_eq_true_eq]
      exact ⟨asked, long⟩
  · intro reach
    cases found : tooLong? files path with
    | none => rfl
    | some error => exact absurd (tooLong?_eq_some proper found).2 (reach _)

/-! ## The outcome of a search -/

theorem unaskable?_eq_none
    (existing : ∀ path ∈ paths, files.pathExists path = true) :
    files.unaskable? paths = none := by
  rw [Node.unaskable?, List.findSome?_eq_none_iff]
  intro path member
  have there := existing path member
  rw [Node.pathExists] at there
  split at there
  · rename_i node found
    rw [found]
  · cases there

theorem discover?_of_reach
    (proper : files.Proper)
    (existing : ∀ path ∈ paths, files.pathExists path = true)
    (reach : WithinReach files paths) :
    discover? files paths = .ok (discover files paths) := by
  have none : paths.findSome? (tooLong? files) = none :=
    List.findSome?_eq_none_iff.2 fun path member => (tooLong?_eq_none proper).2 (reach path member)
  rw [discover?, unaskable?_eq_none existing, none]
  rfl

theorem discover?_of_overlong
    (proper : files.Proper)
    (existing : ∀ path ∈ paths, files.pathExists path = true)
    (overlong : ¬ WithinReach files paths) :
    ∃ path ∈ paths, ∃ place, OverlongAt files path place ∧
      discover? files paths = .error ⟨.nameTooLong, place⟩ := by
  cases search : paths.findSome? (tooLong? files) with
  | none =>
      have passed := List.findSome?_eq_none_iff.1 search
      exact absurd (fun path member => (tooLong?_eq_none proper).1 (passed path member)) overlong
  | some error =>
      rcases List.exists_of_findSome?_eq_some search with ⟨path, member, found⟩
      rcases tooLong?_eq_some proper found with ⟨fault, place⟩
      refine ⟨path, member, error.path, place, ?_⟩
      rw [discover?, unaskable?_eq_none existing, search, ← fault]
      rfl

/-- What is found below a folder within reach is a file at its own path. -/
theorem FoundAt.at?_eq
    (proper : files.Proper)
    (found : FoundAt files path source)
    (reach : ∀ place, ¬ OverlongAt files path place) :
    ∃ content, files.at? source = .ok (.file content) := by
  cases found with
  | itself isFile _ => exact ⟨_, isFile⟩
  | below isFolder inside named _ =>
      refine ⟨_, proper.at?_below isFolder inside (Nat.not_lt.1 fun long => ?_)⟩
      have deeper := Node.ne_nil_of_below?_file inside
      exact reach _ (.intro isFolder deeper inside (Or.inr named) long)

/-- A search at C# files that are listed in order finds these and nothing else. -/
theorem discover?_of_sources
    (proper : files.Proper)
    {sources : List Path}
    (increasing : sources.Pairwise Before)
    (there : ∀ source ∈ sources,
      IsSourceName source.name ∧ ∃ content, files.at? source = .ok (.file content)) :
    discover? files sources = .ok sources := by
  have existing : ∀ source ∈ sources, files.pathExists source = true := by
    intro source member
    rcases there source member with ⟨-, content, isFile⟩
    rw [Node.pathExists, isFile]
  have reach : WithinReach files sources := by
    rintro source member place ⟨isFolder, -, -, -, -⟩
    rcases there source member with ⟨-, content, isFile⟩
    rw [isFile] at isFolder
    cases isFolder
  rw [discover?_of_reach proper existing reach]
  refine congrArg Except.ok (eq_of_same_members (pairwise_discover proper) increasing ?_)
  intro source
  rw [mem_discover proper]
  constructor
  · rintro ⟨other, member, found⟩
    cases found with
    | itself _ _ => exact member
    | below isFolder _ _ _ =>
        rcases there other member with ⟨-, content, isFile⟩
        rw [isFile] at isFolder
        cases isFolder
  · intro member
    rcases there source member with ⟨named, content, isFile⟩
    exact ⟨source, member, .itself isFile named⟩

theorem discover?_discover
    (proper : files.Proper)
    (reach : WithinReach files paths) :
    discover? files (discover files paths) = .ok (discover files paths) := by
  apply discover?_of_sources proper (pairwise_discover proper)
  intro source member
  rcases (mem_discover proper).1 member with ⟨path, given, found⟩
  exact ⟨found.named, found.at?_eq proper (reach path given)⟩

/--
The search for sources in a proper tree, at paths that exist, finds the C# files
at and below them, but for those that a name passed over leads to.  They are
listed in the order of their parts, each once; the list depends on the set of
the paths only, is the union of the lists for its parts, and is found again from
itself.  If something that has to be asked for below a path is at a path that is
too long, the search fails.
-/
theorem search_exact
    {files : Node}
    (proper : files.Proper)
    {paths : List Path}
    (existing : ∀ path ∈ paths, files.pathExists path = true) :
    (WithinReach files paths →
      ∃ found, discover? files paths = .ok found ∧ found.Pairwise Before ∧ found.Nodup ∧
        (∀ source, source ∈ found ↔ ∃ path ∈ paths, FoundAt files path source) ∧
        (∀ others, (∀ path, path ∈ others ↔ path ∈ paths) →
          discover? files others = .ok found) ∧
        (∀ others more, (∀ path ∈ others, files.pathExists path = true) →
          discover? files others = .ok more →
          ∃ both, discover? files (paths ++ others) = .ok both ∧
            ∀ source, source ∈ both ↔ source ∈ found ∨ source ∈ more) ∧
        discover? files found = .ok found) ∧
    (¬ WithinReach files paths →
      ∃ path ∈ paths, ∃ place, OverlongAt files path place ∧
        discover? files paths = .error ⟨.nameTooLong, place⟩) := by
  constructor
  · intro reach
    have increasing : (discover files paths).Pairwise Before := pairwise_discover proper
    refine ⟨discover files paths, discover?_of_reach proper existing reach, increasing,
      increasing.imp Before.ne, fun source => mem_discover proper, ?_, ?_,
      discover?_discover proper reach⟩
    · intro others same
      rw [discover?_of_reach proper (fun path member => existing path ((same path).1 member))
        fun path member => reach path ((same path).1 member), discover_congr proper same]
    · intro others more othersExisting searched
      -- A search that gives a list was within reach.
      have othersReach : WithinReach files others := by
        by_contra overlong
        rcases discover?_of_overlong proper othersExisting overlong with ⟨_, _, _, _, failed⟩
        rw [searched] at failed
        cases failed
      rw [discover?_of_reach proper othersExisting othersReach] at searched
      cases searched
      refine ⟨discover files (paths ++ others), ?_, ?_⟩
      · exact discover?_of_reach proper (List.forall_mem_append.2 ⟨existing, othersExisting⟩)
          (List.forall_mem_append.2 ⟨reach, othersReach⟩)
      · intro source
        rw [mem_discover proper, mem_discover proper, mem_discover proper]
        simp only [List.mem_append, or_and_right, exists_or]
  · exact discover?_of_overlong proper existing

/-! ## Sample trees -/

/-- A path from the working directory. -/
def wayTo (parts : List String) : Path :=
  ⟨"", parts⟩

/-- Sources beside other files, some of them below folders that are passed over, one of them below
a folder that is named like a source. -/
def samplePlaces : List (List String) :=
  [["app", "notes.txt"], ["app", "bin", "Made.cs"], ["app", "Old.CS", "Inner.Cs"],
    ["app", "Main.cs"], ["app-x", "obj", "Z.cs"], ["app-x", "Y.cS"]]

/-- A tree of empty files. -/
def emptyFiles (places : List (List String)) : Node :=
  .ofList (places.map fun parts => (wayTo parts, .file .empty))

/-- Two folders, one of them twice, and a folder in it that is passed over. -/
def samplePaths : List Path :=
  [["app-x"], ["app"], ["app", "bin"], ["app"]].map wayTo

theorem proper_emptyFiles
    {places : List (List String)}
    (named : ∀ parts ∈ places, ∀ part ∈ parts, IsEntryName part) :
    (emptyFiles places).Proper := by
  apply Node.proper_ofList
  intro listed member
  rcases List.mem_map.1 member with ⟨parts, among, rfl⟩
  exact ⟨.file _, named parts among⟩

/-- What is passed over below one path may be found below another, and paths are compared part by
part, not as texts. -/
theorem search_exact_samplePlaces :
    discover? (emptyFiles samplePlaces) samplePaths =
      .ok ([["app", "Main.cs"], ["app", "Old.CS", "Inner.Cs"], ["app", "bin", "Made.cs"],
        ["app-x", "Y.cS"]].map wayTo) := by
  have proper : (emptyFiles samplePlaces).Proper := proper_emptyFiles (by decide +kernel)
  have reach : WithinReach (emptyFiles samplePlaces) samplePaths := by
    have none : ∀ path ∈ samplePaths, tooLong? (emptyFiles samplePlaces) path = none := by
      decide +kernel
    exact fun path member => (tooLong?_eq_none proper).1 (none path member)
  rcases (search_exact proper (by decide +kernel)).1 reach with
    ⟨found, searched, increasing, -, members, -⟩
  rw [searched]
  refine congrArg Except.ok (eq_of_same_members increasing (by decide +kernel) fun source => ?_)
  have listed : samplePaths.flatMap (sourcesAt (emptyFiles samplePlaces)) =
      [["app-x", "Y.cS"], ["app", "Old.CS", "Inner.Cs"], ["app", "Main.cs"],
        ["app", "bin", "Made.cs"], ["app", "Old.CS", "Inner.Cs"],
        ["app", "Main.cs"]].map wayTo := by
    decide +kernel
  rw [members, ← mem_flatMap_sourcesAt proper, listed]
  constructor
  · revert source
    decide +kernel
  · revert source
    decide +kernel

/-! ## A long way to a folder -/

/-- The parts of a way that goes into a folder and out again some times, and on. -/
def winding (count : Nat) (last : List String) : List String :=
  (List.replicate count ["a", ".."]).flatten ++ last

theorem winding_succ (count : Nat) (last : List String) :
    winding (count + 1) last = "a" :: ".." :: winding count last := by
  simp [winding, List.replicate_succ]

theorem below_winding (count : Nat) (last parts : List String) :
    (wayTo (winding count last)).below parts = wayTo (winding count (last ++ parts)) := by
  rw [Path.below, wayTo, wayTo, winding, winding, List.append_assoc]

theorem isWay_winding
    (count : Nat)
    {last : List String}
    (named : ∀ part ∈ last, IsEntryName part) :
    (wayTo (winding count last)).IsWay := by
  refine ⟨rfl, ?_⟩
  intro part member
  induction count with
  | zero => exact Or.inr (named part member)
  | succ count induction =>
      rw [wayTo, winding_succ, List.mem_cons, List.mem_cons] at member
      rcases member with rfl | rfl | later
      · exact Or.inr (by decide)
      · exact Or.inl rfl
      · exact induction later

theorem text_wayTo_cons
    (part : String)
    {rest : List String}
    (further : rest ≠ []) :
    (wayTo (part :: rest)).text = part ++ "/" ++ (wayTo rest).text := by
  rcases List.exists_cons_of_ne_nil further with ⟨next, more, rfl⟩
  exact Text.joinStrings_cons_cons "/" part next more

theorem winding_ne_nil
    (count : Nat)
    {last : List String}
    (further : last ≠ []) :
    winding count last ≠ [] :=
  List.append_ne_nil_of_right_ne_nil _ further

theorem utf8ByteSize_winding
    (count : Nat)
    {last : List String}
    (further : last ≠ []) :
    (wayTo (winding count last)).text.utf8ByteSize =
      5 * count + (wayTo last).text.utf8ByteSize := by
  induction count with
  | zero => rw [Nat.mul_zero, Nat.zero_add, winding, List.replicate_zero, List.flatten_nil,
      List.nil_append]
  | succ count induction =>
      have letter : "a".utf8ByteSize = 1 := rfl
      have slash : "/".utf8ByteSize = 1 := rfl
      have dots : "..".utf8ByteSize = 2 := rfl
      rw [winding_succ, text_wayTo_cons _ (List.cons_ne_nil _ _),
        text_wayTo_cons _ (winding_ne_nil count further)]
      simp only [String.utf8ByteSize_append, letter, slash, dots, induction]
      omega

theorem follow_winding
    {entries inner : List (String × Node)}
    (found : Node.named? entries "a" = some (.folder inner))
    (count : Nat)
    (last : List String) :
    Node.follow [] (.folder entries) (winding count last) =
      Node.follow [] (.folder entries) last := by
  induction count with
  | zero => rfl
  | succ count induction =>
      rw [winding_succ, Node.follow_down (by decide) (by decide) found, Node.follow_folder,
        if_neg (by decide), if_pos rfl]
      exact induction

/-- A folder with a source is given by a path of 4091 bytes, to which the name of the source adds
five: the search fails, though the source is there. -/
theorem search_fails_winding :
    let files := emptyFiles [["a", "b.cs"]]
    let path := wayTo (winding 818 ["a"])
    files.Proper ∧ files.pathExists path = true ∧
      FoundAt files path (path.below ["b.cs"]) ∧
      ¬ ∃ found, discover? files [path] = .ok found := by
  intro files path
  have proper : files.Proper := proper_emptyFiles (by decide +kernel)
  have shape : files = .folder [("a", .folder [("b.cs", .file .empty)])] := rfl
  have short : path.text.utf8ByteSize ≤ Node.longestPath := by
    rw [utf8ByteSize_winding 818 (List.cons_ne_nil _ _)]
    decide
  have isFolder : files.at? path = .ok (.folder [("b.cs", .file .empty)]) := by
    refine Node.at?_eq_ok.2 ⟨(Node.pathFault?_eq_none (isWay_winding 818 (by decide))).2 short, ?_⟩
    rw [shape]
    exact follow_winding rfl 818 ["a"]
  have there : files.pathExists path = true := by
    rw [Node.pathExists, isFolder]
  have inside : (Node.folder [("b.cs", .file .empty)]).below? ["b.cs"] = some (.file .empty) := rfl
  have named : IsSourceName (path.below ["b.cs"]).name := by
    have name : (path.below ["b.cs"]).name = "b.cs" := by
      rw [Path.name, Path.below, List.getLast?_concat, Option.getD_some]
    rw [name]
    exact ⟨"b", ".cs", by decide, by decide, rfl⟩
  have long : Node.longestPath < (path.below ["b.cs"]).text.utf8ByteSize := by
    have longer : path.below ["b.cs"] = wayTo (winding 818 ["a", "b.cs"]) :=
      below_winding 818 ["a"] ["b.cs"]
    rw [longer, utf8ByteSize_winding 818 (List.cons_ne_nil _ _)]
    decide
  refine ⟨proper, there, .below isFolder inside named (by decide), ?_⟩
  rintro ⟨found, searched⟩
  have overlong : ¬ WithinReach files [path] := by
    intro reach
    exact reach path List.mem_cons_self _
      (.intro isFolder (List.cons_ne_nil _ _) inside (Or.inr named) long)
  rcases discover?_of_overlong proper (by simpa using there) overlong with ⟨_, _, _, _, failed⟩
  rw [searched] at failed
  cases failed

end WinrtLint.Discovery
