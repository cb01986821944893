import WinrtLint.Dictionary
import WinrtLint.Proofs.Files.Writing
import WinrtLint.Proofs.Text.Cuts

/-!
# Listing a tree

In a tree as a file system has it, the names in a folder are names of files and
differ from one another (`Node.Proper`).  Then the nodes that are listed below a
folder are those to which names lead down (`Node.Proper.mem_nodesAmong`), and
what is there is found again at the path of the folder with these names behind
it, as long as the path is not too long (`Node.Proper.at?_below`).
-/

namespace WinrtLint.Files

/-! ## Names of entries -/

/-- A name that an entry of a folder may have. -/
structure IsEntryName (name : String) : Prop where
  nonempty : name ≠ ""
  not_here : name ≠ "."
  not_up : name ≠ ".."
  no_slash : '/' ∉ name.toList
  no_null : '\x00' ∉ name.toList
  short : name.utf8ByteSize ≤ Node.longestName

instance (name : String) : Decidable (IsEntryName name) :=
  decidable_of_iff
    (name ≠ "" ∧ name ≠ "." ∧ name ≠ ".." ∧ '/' ∉ name.toList ∧ '\x00' ∉ name.toList ∧
      name.utf8ByteSize ≤ Node.longestName)
    ⟨fun ⟨nonempty, notHere, notUp, noSlash, noNull, short⟩ =>
      ⟨nonempty, notHere, notUp, noSlash, noNull, short⟩,
    fun ⟨nonempty, notHere, notUp, noSlash, noNull, short⟩ =>
      ⟨nonempty, notHere, notUp, noSlash, noNull, short⟩⟩

/-- A part of a path that leads somewhere: up, or to an entry. -/
def IsStep (part : String) : Prop :=
  part = ".." ∨ IsEntryName part

theorem IsStep.no_slash {part : String} (step : IsStep part) :
    '/' ∉ part.toList := by
  rcases step with rfl | named
  · decide
  · exact named.no_slash

theorem IsStep.no_null {part : String} (step : IsStep part) :
    '\x00' ∉ part.toList := by
  rcases step with rfl | named
  · decide
  · exact named.no_null

namespace Node

/-- A tree as a file system has it: entries have proper names, and each its own. -/
inductive Proper : Node → Prop
  | file (content : Bytes) : Proper (.file content)
  | folder
      {entries : List (String × Node)}
      (named : ∀ entry ∈ entries, IsEntryName entry.1)
      (apart : (entries.map Prod.fst).Nodup)
      (inside : ∀ entry ∈ entries, Proper entry.2) :
      Proper (.folder entries)

variable
    {root node lower : Node}
    {entries : List (String × Node)}
    {parts : List String}

theorem mem_of_named?
    {name : String}
    (found : named? entries name = some node) :
    (name, node) ∈ entries := by
  rcases List.lookup_eq_some_iff.1 found with ⟨before, after, rfl, -⟩
  exact List.mem_append_right _ List.mem_cons_self

/-- Entries of names that differ are found by their names. -/
theorem named?_eq_some (apart : (entries.map Prod.fst).Nodup) {name : String} :
    named? entries name = some node ↔ (name, node) ∈ entries := by
  refine ⟨mem_of_named?, ?_⟩
  intro member
  rcases List.append_of_mem member with ⟨before, after, rfl⟩
  refine List.lookup_eq_some_iff.2 ⟨before, after, rfl, ?_⟩
  intro entry earlier
  rw [List.map_append, List.map_cons, List.nodup_append] at apart
  have differ := apart.2.2 entry.1 (List.mem_map_of_mem earlier) name List.mem_cons_self
  exact bne_iff_ne.2 differ.symm

/-! ## The nodes that are listed -/

theorem mem_nodesAmong {listed : List String × Node} :
    listed ∈ nodesAmong entries ↔
      ∃ entry ∈ entries, ∃ deeper ∈ entry.2.nodesBelow,
        (entry.1 :: deeper.1, deeper.2) = listed := by
  induction entries with
  | nil => simp [nodesAmong]
  | cons entry rest induction =>
      rw [nodesAmong, List.mem_append, induction, List.mem_map]
      constructor
      · rintro (here | ⟨other, later, found⟩)
        · exact ⟨entry, List.mem_cons_self, here⟩
        · exact ⟨other, List.mem_cons_of_mem _ later, found⟩
      · rintro ⟨other, member, found⟩
        rcases List.mem_cons.1 member with rfl | later
        · exact Or.inl found
        · exact Or.inr ⟨other, later, found⟩

theorem mem_onlyFiles {listed : List (List String × Node)} :
    parts ∈ onlyFiles listed ↔ ∃ content, (parts, .file content) ∈ listed := by
  rw [onlyFiles, List.mem_filterMap]
  constructor
  · rintro ⟨⟨other, node⟩, member, found⟩
    cases node with
    | file content =>
        cases found
        exact ⟨content, member⟩
    | folder entries => cases found
  · rintro ⟨content, member⟩
    exact ⟨_, member, rfl⟩

/-- The nodes of a tree are those to which names lead down. -/
theorem Proper.mem_nodesBelow (proper : root.Proper) :
    (parts, node) ∈ root.nodesBelow ↔ root.below? parts = some node := by
  induction proper generalizing parts node with
  | file content =>
      rw [nodesBelow, List.mem_singleton]
      cases parts with
      | nil => simp [below?, eq_comm]
      | cons name rest => simp [below?]
  | @folder entries named apart inside induction =>
      rw [nodesBelow, List.mem_cons]
      cases parts with
      | nil =>
          have notBelow : ([], node) ∉ nodesAmong entries := by
            intro listed
            rcases mem_nodesAmong.1 listed with ⟨_, _, _, _, same⟩
            cases same
          simp [below?, notBelow, eq_comm]
      | cons name rest =>
          have notHere : (name :: rest, node) ≠ ([], .folder entries) := by
            intro same
            cases same
          rw [or_iff_right notHere, mem_nodesAmong, below?, Option.bind_eq_some_iff]
          -- The first name leads into one entry only, since the names of entries differ.
          constructor
          · rintro ⟨entry, among, deeper, listed, same⟩
            cases same
            exact ⟨entry.2, (named?_eq_some apart).2 among, (induction entry among).1 listed⟩
          · rintro ⟨inner, found, there⟩
            have among := (named?_eq_some apart).1 found
            exact ⟨_, among, _, (induction _ among).2 there, rfl⟩

/-- Below a folder the nodes are listed to which at least one name leads down. -/
theorem Proper.mem_nodesAmong (proper : (Node.folder entries).Proper) :
    (parts, node) ∈ nodesAmong entries ↔
      parts ≠ [] ∧ (Node.folder entries).below? parts = some node := by
  rw [← proper.mem_nodesBelow, nodesBelow, List.mem_cons]
  constructor
  · intro listed
    refine ⟨?_, Or.inr listed⟩
    rintro rfl
    rcases Node.mem_nodesAmong.1 listed with ⟨_, _, _, _, same⟩
    cases same
  · rintro ⟨deeper, here | listed⟩
    · cases here
      exact absurd rfl deeper
    · exact listed

/-! ## What is there, at its path -/

/-- Below a proper tree are proper trees, at names of entries. -/
theorem Proper.of_below?
    (proper : root.Proper)
    (found : root.below? parts = some node) :
    node.Proper ∧ ∀ part ∈ parts, IsEntryName part := by
  induction parts generalizing root with
  | nil =>
      rw [below?] at found
      cases found
      exact ⟨proper, fun _ member => absurd member List.not_mem_nil⟩
  | cons name rest induction =>
      cases proper with
      | file content => cases found
      | folder named apart inside =>
          rcases Option.bind_eq_some_iff.1 found with ⟨next, here, there⟩
          have among := mem_of_named? here
          rcases induction (inside _ among) there with ⟨properNode, namedRest⟩
          exact ⟨properNode, List.forall_mem_cons.2 ⟨named _ among, namedRest⟩⟩

/-- Some name leads down from a folder to a file. -/
theorem ne_nil_of_below?_file
    {content : Bytes}
    (found : (folder entries).below? parts = some (.file content)) :
    parts ≠ [] := by
  rintro rfl
  cases found

/-- Names of entries are followed down. -/
theorem follow_of_below?
    (named : ∀ part ∈ parts, IsEntryName part)
    (found : root.below? parts = some node)
    (above : List Node) :
    follow above root parts = .ok node := by
  induction parts generalizing root above with
  | nil =>
      rw [below?] at found
      cases found
      rfl
  | cons name rest induction =>
      cases root with
      | file content => cases found
      | folder entries =>
          rcases Option.bind_eq_some_iff.1 found with ⟨next, here, there⟩
          rcases List.forall_mem_cons.1 named with ⟨first, later⟩
          rw [follow_down (Nat.not_lt.2 first.short) first.not_up here]
          exact induction later there _

/-- Where following leads in a proper tree is a proper tree, and the parts are steps. -/
theorem Proper.follow
    (proper : root.Proper)
    {above : List Node}
    (properAbove : ∀ folder ∈ above, folder.Proper)
    (followed : follow above root parts = .ok node) :
    node.Proper ∧ ∀ part ∈ parts, IsStep part := by
  induction parts generalizing root above with
  | nil =>
      rw [Node.follow] at followed
      cases followed
      exact ⟨proper, fun _ member => absurd member List.not_mem_nil⟩
  | cons part rest induction =>
      rcases follow_cons_eq_ok followed with ⟨entries, rfl, ⟨parent, others, up, rfl, onward⟩ |
        ⟨next, short, noUp, found, onward⟩⟩
      · rcases List.forall_mem_cons.1 properAbove with ⟨properParent, properOthers⟩
        rcases induction properParent properOthers onward with ⟨properNode, steps⟩
        exact ⟨properNode, List.forall_mem_cons.2 ⟨Or.inl up, steps⟩⟩
      · rcases proper with _ | ⟨named, apart, inside⟩
        have among := mem_of_named? found
        have further := List.forall_mem_cons.2 ⟨Proper.folder named apart inside, properAbove⟩
        rcases induction (inside _ among) further onward with ⟨properNode, steps⟩
        exact ⟨properNode, List.forall_mem_cons.2 ⟨Or.inr (named _ among), steps⟩⟩

end Node

/-! ## Existing paths -/

/-- A path that leads along steps from the working directory. -/
structure Path.IsWay (path : Path) : Prop where
  relative : path.root = ""
  steps : ∀ part ∈ path.parts, IsStep part

namespace Path

variable {path : Path}

theorem text_eq (relative : path.root = "") (further : path.parts ≠ []) :
    path.text = Text.joinStrings "/" path.parts := by
  have some : path.parts.isEmpty = false := List.isEmpty_eq_false_iff.2 further
  rw [text, relative, some]
  rfl

theorem IsWay.eq_of_parts
    {left right : Path}
    (leftWay : left.IsWay)
    (rightWay : right.IsWay)
    (same : left.parts = right.parts) :
    left = right := by
  rcases left with ⟨leftRoot, leftParts⟩
  rcases right with ⟨rightRoot, rightParts⟩
  rw [mk.injEq]
  exact ⟨leftWay.relative.trans rightWay.relative.symm, same⟩

theorem IsWay.below
    (way : path.IsWay)
    {parts : List String}
    (named : ∀ part ∈ parts, IsEntryName part) :
    (path.below parts).IsWay := by
  refine ⟨way.relative, ?_⟩
  intro part member
  rcases List.mem_append.1 member with early | late
  · exact way.steps part early
  · exact Or.inr (named part late)

theorem IsWay.null_not_mem (way : path.IsWay) : '\x00' ∉ path.text.toList := by
  by_cases here : path.parts = []
  · rw [text, way.relative, here]
    decide
  · rw [text_eq way.relative here]
    intro member
    rcases Text.mem_joinStrings member with slash | ⟨part, among, inside⟩
    · exact absurd slash (by decide)
    · exact (way.steps part among).no_null inside

theorem IsWay.components_eq (way : path.IsWay) (further : path.parts ≠ []) :
    path.components = path.parts := by
  rw [components, text_eq way.relative further]
  rcases List.exists_cons_of_ne_nil further with ⟨first, more, parts⟩
  rw [parts]
  apply Text.pieces_joinStrings
  intro part member
  exact (way.steps part (parts ▸ member)).no_slash

end Path

namespace Node

variable {files node lower : Node} {path : Path} {parts : List String}

theorem pathFault?_eq_none (way : path.IsWay) :
    pathFault? path = none ↔ path.text.utf8ByteSize ≤ longestPath := by
  have free : path.text.toList.contains '\x00' = false := by
    rw [← Bool.not_eq_true, List.contains_iff_mem]
    exact way.null_not_mem
  have relative : path.isAbsolute = false := by
    rw [Path.isAbsolute, way.relative]
    rfl
  rw [pathFault?, free, relative]
  by_cases long : longestPath < path.text.utf8ByteSize
  · simp [long]
  · simp [long, Nat.not_lt.1 long]

theorem at?_eq_ok :
    files.at? path = .ok node ↔
      pathFault? path = none ∧ follow [] files path.parts = .ok node := by
  rw [at?]
  cases pathFault? path <;> simp

/-- A path to something in a proper tree leads along steps, and to a proper tree. -/
theorem Proper.of_at?
    (proper : files.Proper)
    (found : files.at? path = .ok node) :
    node.Proper ∧ path.IsWay := by
  rcases at?_eq_ok.1 found with ⟨sound, followed⟩
  rcases proper.follow (fun _ member => absurd member List.not_mem_nil) followed with
    ⟨properNode, steps⟩
  refine ⟨properNode, ?_, steps⟩
  rw [pathFault?] at sound
  split at sound
  · cases sound
  · split at sound
    · cases sound
    · split at sound
      · cases sound
      · rename_i relative
        simpa [Path.isAbsolute] using relative

/-- What stands below a node at a path is at the path with its names behind. -/
theorem Proper.at?_below
    (proper : files.Proper)
    (found : files.at? path = .ok node)
    (inside : node.below? parts = some lower)
    (short : (path.below parts).text.utf8ByteSize ≤ longestPath) :
    files.at? (path.below parts) = .ok lower := by
  rcases proper.of_at? found with ⟨properNode, way⟩
  rcases properNode.of_below? inside with ⟨-, named⟩
  rcases exists_reached .start (at?_eq_ok.1 found).2 with ⟨above, -, go⟩
  refine at?_eq_ok.2 ⟨(pathFault?_eq_none (way.below named)).2 short, ?_⟩
  exact (go parts).trans (follow_of_below? named inside above)

/-! ## Trees from their nodes -/

theorem setEntry_eq_putEntry
    (entries : List (String × Node))
    (name : String)
    (node : Node) :
    setEntry entries name node = putEntry name node entries := by
  induction entries with
  | nil => rfl
  | cons entry rest induction => rw [setEntry, putEntry, induction]

theorem Proper.put
    {place : Node}
    (properNode : node.Proper)
    (properPlace : place.Proper)
    (named : ∀ part ∈ parts, IsEntryName part) :
    (Node.put node parts place).Proper := by
  induction parts generalizing place with
  | nil => exact properNode
  | cons name rest induction =>
      rcases List.forall_mem_cons.1 named with ⟨first, later⟩
      have properFolder : ∀ entries, (Node.folder entries).Proper →
          (Node.put node (name :: rest) (.folder entries)).Proper := by
        intro entries proper
        rcases proper with _ | ⟨names, apart, inside⟩
        have distinct : ((Dictionary.mk entries).entries.map Prod.fst).Nodup := apart
        have properInner : ((named? entries name).getD empty).Proper := by
          cases found : named? entries name with
          | none => exact .folder (by simp) List.nodup_nil (by simp)
          | some inner => exact inside _ (mem_of_named? found)
        have properBelow := induction properInner later
        rw [put_folder, setEntry_eq_putEntry]
        refine .folder ?_ (Dictionary.nodup_insert distinct name _) ?_
        · intro entry member
          rcases Dictionary.mem_putEntry member with rfl | earlier
          · exact first
          · exact names entry earlier
        · intro entry member
          rcases Dictionary.mem_putEntry member with rfl | earlier
          · exact properBelow
          · exact inside entry earlier
      -- A file on the way gives way to a folder with the one entry.
      cases place with
      | file content => exact properFolder [] (.folder (by simp) List.nodup_nil (by simp))
      | folder entries => exact properFolder entries properPlace

theorem Proper.place
    (proper : files.Proper)
    (properNode : node.Proper)
    (named : ∀ part ∈ path.parts, IsEntryName part) :
    (files.place path node).Proper := by
  unfold Node.place
  split
  · exact proper
  · exact properNode.put proper named

/-- A tree of proper nodes at paths of proper names is proper. -/
theorem proper_ofList
    {nodes : List (Path × Node)}
    (proper : ∀ listed ∈ nodes, listed.2.Proper ∧ ∀ part ∈ listed.1.parts, IsEntryName part) :
    (ofList nodes).Proper := by
  rw [ofList]
  have start : empty.Proper := .folder (by simp) List.nodup_nil (by simp)
  generalize empty = files at start
  induction nodes generalizing files with
  | nil => exact start
  | cons listed rest induction =>
      rcases List.forall_mem_cons.1 proper with ⟨first, later⟩
      exact induction later _ (start.place first.1 first.2)

end Node

end WinrtLint.Files
