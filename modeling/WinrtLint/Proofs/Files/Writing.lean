import WinrtLint.Files.Tree

/-!
# Reading back files

What is written at a path is read back at that path (`read_write`).  A path may
go up on its way, so it is followed twice: in the tree as it was and in the tree
with the new file.  `Reached` says where following has led in a tree, by the
names on the way down.  The names are the same in both trees, since following
meets folders only and the new file takes the place of none of them
(`exists_follow_put`).
-/

namespace WinrtLint.Files.Node

/-! ## Nodes by their names -/

/-- The node that some names lead down to. -/
def below? : Node → List String → Option Node
  | node, [] => some node
  | .file _, _ :: _ => none
  | .folder entries, name :: rest => (named? entries name).bind fun node => node.below? rest

theorem below?_append (root : Node) (front back : List String) :
    root.below? (front ++ back) = (root.below? front).bind fun node => node.below? back := by
  induction front generalizing root with
  | nil => rfl
  | cons name front induction =>
      cases root with
      | file content => rfl
      | folder entries =>
          rw [List.cons_append, below?, below?, Option.bind_assoc]
          exact congrArg (Option.bind _) (funext induction)

theorem below?_concat
    {root : Node}
    {front : List String}
    {entries : List (String × Node)}
    (found : root.below? front = some (.folder entries))
    (name : String) :
    root.below? (front ++ [name]) = named? entries name := by
  rw [below?_append, found, Option.bind_some, below?]
  exact Option.bind_fun_some _

theorem named?_cons
    (entry : String × Node)
    (rest : List (String × Node))
    (name : String) :
    named? (entry :: rest) name = if entry.1 = name then some entry.2 else named? rest name := by
  rw [named?, List.lookup_cons, named?]
  by_cases same : entry.1 = name
  · rw [if_pos same, same, beq_self_eq_true]
  · rw [if_neg same, beq_eq_false_iff_ne.2 (Ne.symm same)]

theorem named?_setEntry
    (entries : List (String × Node))
    (name other : String)
    (node : Node) :
    named? (setEntry entries name node) other =
      if name = other then some node else named? entries other := by
  induction entries with
  | nil => rw [setEntry, named?_cons]
  | cons entry rest induction =>
      rw [setEntry]
      split
      · rename_i here
        rw [named?_cons, named?_cons, here]
        split <;> rfl
      · rename_i elsewhere
        rw [named?_cons, induction, named?_cons]
        by_cases hit : entry.1 = other
        · have different : name ≠ other := fun same => elsewhere (hit.trans same.symm)
          rw [if_pos hit, if_neg different, if_pos hit]
        · rw [if_neg hit, if_neg hit]

theorem put_folder
    (node : Node)
    (name : String)
    (rest : List String)
    (entries : List (String × Node)) :
    put node (name :: rest) (.folder entries) =
      .folder (setEntry entries name (put node rest ((named? entries name).getD empty))) :=
  rfl

/-- Where a folder is needed, a file gives way to one. -/
theorem put_file
    (node : Node)
    (name : String)
    (rest : List String)
    (content : Bytes) :
    put node (name :: rest) (.file content) = put node (name :: rest) empty :=
  rfl

theorem below?_put (node : Node) (target : List String) (root : Node) :
    (put node target root).below? target = some node := by
  induction target generalizing root with
  | nil => rfl
  | cons name target induction =>
      cases root with
      | file content =>
          rw [put_file, empty, put_folder, below?, named?_setEntry, if_pos rfl]
          exact induction _
      | folder entries =>
          rw [put_folder, below?, named?_setEntry, if_pos rfl]
          exact induction _

/-- A folder stays a folder, unless a node is put on the way to it. -/
theorem exists_below?_put
    (node : Node)
    {target position : List String}
    {root : Node}
    {entries : List (String × Node)}
    (apart : ¬ target <+: position)
    (found : root.below? position = some (.folder entries)) :
    ∃ others, (put node target root).below? position = some (.folder others) := by
  induction target generalizing root position with
  | nil => exact absurd List.nil_prefix apart
  | cons name target induction =>
      cases position with
      | nil =>
          cases root with
          | file content => cases found
          | folder nodes => exact ⟨_, rfl⟩
      | cons other position =>
          cases root with
          | file content => cases found
          | folder nodes =>
              rw [below?] at found
              rw [put_folder, below?, named?_setEntry]
              by_cases same : name = other
              · subst same
                rcases Option.bind_eq_some_iff.1 found with ⟨inner, there, inside⟩
                rw [if_pos rfl, there]
                refine induction ?_ inside
                exact fun before => apart ((List.prefix_cons_inj name).2 before)
              · rw [if_neg same]
                exact ⟨entries, found⟩

/-! ## Following -/

/-- The names on the way down after one more part, the last one first. -/
def goOn (names : List String) (part : String) : List String :=
  if part = ".." then names.tail else part :: names

theorem withoutUps_eq (parts : List String) :
    withoutUps parts = (parts.foldl goOn []).reverse :=
  rfl

/--
Where following has led in a tree: the names on the way down and the folders
above, the last one first, and the node.
-/
inductive Reached (root : Node) : List String → List Node → Node → Prop where
  | start : Reached root [] [] root
  | down
      {names : List String}
      {above : List Node}
      {entries : List (String × Node)}
      {name : String}
      {node : Node}
      (before : Reached root names above (.folder entries))
      (found : named? entries name = some node) :
      Reached root (name :: names) (.folder entries :: above) node

theorem Reached.below?_eq
    {root node : Node}
    {names : List String}
    {above : List Node}
    (reached : Reached root names above node) :
    root.below? names.reverse = some node := by
  induction reached with
  | start => rfl
  | down before found induction =>
      rw [List.reverse_cons, below?_concat induction, found]

theorem follow_folder
    (above : List Node)
    (entries : List (String × Node))
    (part : String)
    (rest : List String) :
    follow above (.folder entries) (part :: rest) =
      if longestName < part.utf8ByteSize then .error .nameTooLong
      else if part = ".." then
        match above with
        | [] => .error .notFound
        | parent :: above => follow above parent rest
      else
        match named? entries part with
        | none => .error .notFound
        | some node => follow (.folder entries :: above) node rest :=
  rfl

theorem follow_down
    {entries : List (String × Node)}
    {part : String}
    {node : Node}
    (short : ¬ longestName < part.utf8ByteSize)
    (noUp : part ≠ "..")
    (found : named? entries part = some node)
    (above : List Node)
    (rest : List String) :
    follow above (.folder entries) (part :: rest) =
      follow (.folder entries :: above) node rest := by
  rw [follow_folder, if_neg short, if_neg noUp, found]

/-- What following one part takes: a folder above for two dots, an entry for a name. -/
theorem follow_cons_eq_ok
    {above : List Node}
    {node result : Node}
    {part : String}
    {rest : List String}
    (followed : follow above node (part :: rest) = .ok result) :
    ∃ entries, node = .folder entries ∧
      ((∃ parent others, part = ".." ∧ above = parent :: others ∧
          follow others parent rest = .ok result) ∨
        (∃ next, ¬ longestName < part.utf8ByteSize ∧ part ≠ ".." ∧
          named? entries part = some next ∧
          follow (.folder entries :: above) next rest = .ok result)) := by
  cases node with
  | file content => cases followed
  | folder entries =>
      refine ⟨entries, rfl, ?_⟩
      rw [follow_folder] at followed
      split at followed
      · cases followed
      · rename_i short
        split at followed
        · rename_i up
          cases above with
          | nil => cases followed
          | cons parent others => exact Or.inl ⟨parent, others, up, rfl, followed⟩
        · rename_i noUp
          cases found : named? entries part with
          | none =>
              rw [found] at followed
              cases followed
          | some next =>
              rw [found] at followed
              exact Or.inr ⟨next, short, noUp, rfl, followed⟩

/-- Following leads where the names lead, and goes on from there. -/
theorem exists_reached
    {root node result : Node}
    {names parts : List String}
    {above : List Node}
    (reached : Reached root names above node)
    (followed : follow above node parts = .ok result) :
    ∃ others, Reached root (parts.foldl goOn names) others result ∧
      ∀ rest, follow above node (parts ++ rest) = follow others result rest := by
  induction parts generalizing names above node with
  | nil =>
      rw [follow] at followed
      cases followed
      exact ⟨above, reached, fun rest => rfl⟩
  | cons part parts induction =>
      rcases follow_cons_eq_ok followed with ⟨entries, rfl, ⟨parent, above, rfl, rfl, followed⟩ |
        ⟨next, short, noUp, found, followed⟩⟩
      · cases reached with
        | down before found => exact induction before followed
      · rcases induction (.down reached found) followed with ⟨others, later, go⟩
        refine ⟨others, ?_, ?_⟩
        · rw [List.foldl_cons, goOn, if_neg noUp]
          exact later
        · intro rest
          rw [List.cons_append, follow_down short noUp found]
          exact go rest

theorem exists_folder_of_follow
    {above : List Node}
    {node : Node}
    {parts : List String}
    {last : List (String × Node)}
    (followed : follow above node parts = .ok (.folder last)) :
    ∃ entries, node = .folder entries := by
  cases parts with
  | nil =>
      rw [follow] at followed
      cases followed
      exact ⟨last, rfl⟩
  | cons part parts =>
      rcases follow_cons_eq_ok followed with ⟨entries, rfl, -⟩
      exact ⟨entries, rfl⟩

/-- Nothing below a node that is no folder is one. -/
theorem not_prefix_of_folder
    {root : Node}
    {target position : List String}
    {entries : List (String × Node)}
    (noFolder : ∀ nodes, root.below? target ≠ some (.folder nodes))
    (found : root.below? position = some (.folder entries)) :
    ¬ target <+: position := by
  rintro ⟨rest, rfl⟩
  rw [below?_append] at found
  rcases Option.bind_eq_some_iff.1 found with ⟨node, there, inside⟩
  cases node with
  | folder nodes => exact noFolder nodes there
  | file content => cases rest <;> cases inside

/-- Parts that lead to a folder still do when a node is put where no folder is. -/
theorem exists_follow_put
    {root node : Node}
    {target names parts : List String}
    {above others : List Node}
    {entries nodes last : List (String × Node)}
    (noFolder : ∀ nodes, root.below? target ≠ some (.folder nodes))
    (reached : Reached root names above (.folder entries))
    (reachedPut : Reached (put node target root) names others (.folder nodes))
    (followed : follow above (.folder entries) parts = .ok (.folder last)) :
    ∃ final, follow others (.folder nodes) parts = .ok (.folder final) := by
  induction parts generalizing names above others entries nodes with
  | nil => exact ⟨nodes, rfl⟩
  | cons part parts induction =>
      rcases follow_cons_eq_ok followed with ⟨_, ⟨⟩, ⟨parent, above, rfl, rfl, followed⟩ |
        ⟨next, short, noUp, found, followed⟩⟩
      · cases reached with
        | down before _ =>
            cases reachedPut with
            | down beforePut _ => exact induction before beforePut followed
      · rcases exists_folder_of_follow followed with ⟨inner, rfl⟩
        have reachedNext := Reached.down reached found
        rcases exists_below?_put node (not_prefix_of_folder noFolder reachedNext.below?_eq)
          reachedNext.below?_eq with ⟨others, foundPut⟩
        rw [List.reverse_cons, below?_concat reachedPut.below?_eq] at foundPut
        rw [follow_down short noUp foundPut]
        exact induction reachedNext (.down reachedPut foundPut) followed

/-! ## Reading what was written -/

theorem at?_eq_follow
    {path : Path}
    (sound : pathFault? path = none)
    (files : Node) :
    files.at? path = follow [] files path.parts := by
  rw [at?, sound]

/-- What writing takes: a folder, a name in it that is no folder's, and no more. -/
theorem write_eq_ok
    {files after : Node}
    {path : Path}
    {content : Bytes}
    (written : files.write path content = .ok after) :
    ∃ front name entries, path.parts = front ++ [name] ∧ pathFault? path = none ∧
      follow [] files front = .ok (.folder entries) ∧
      ¬ longestName < name.utf8ByteSize ∧ name ≠ ".." ∧
      (∀ nodes, named? entries name ≠ some (.folder nodes)) ∧
      after = put (.file content) (withoutUps path.parts) files := by
  rw [write] at written
  split at written
  · cases written
  · rename_i sound
    rw [at?_eq_follow sound] at written
    rcases List.eq_nil_or_concat path.parts with empty | ⟨front, name, parts⟩
    · rw [empty] at written
      cases files <;> cases written
    · rw [List.concat_eq_append] at parts
      simp only [parts, List.dropLast_concat, List.getLast?_concat, Option.some.injEq] at written
      split at written
      · cases written
      · cases written
      · rename_i entries followed
        rcases exists_reached .start followed with ⟨others, -, go⟩
        rw [go, follow_folder] at written
        split at written
        · cases written
        · cases written
        · rename_i noFolder noLength
          have short : ¬ longestName < name.utf8ByteSize := fun long => noLength (if_pos long)
          split at written
          · cases written
          · rename_i noUp
            cases written
            refine ⟨front, name, entries, parts, sound, followed, short, noUp, ?_,
              parts.symm ▸ rfl⟩
            intro nodes found
            refine noFolder nodes ?_
            rw [if_neg short, if_neg noUp, found]
            rfl

/-- What was written at a path is read there. -/
theorem read_write
    {files after : Node}
    {path : Path}
    {content : Bytes}
    (written : files.write path content = .ok after) :
    after.read path = .ok content := by
  rcases write_eq_ok written with
    ⟨front, name, entries, parts, sound, followed, short, noUp, noFolder, rfl⟩
  rcases exists_folder_of_follow followed with ⟨nodes, rfl⟩
  rcases exists_reached .start followed with ⟨above, reached, -⟩
  have target : withoutUps path.parts = (front.foldl goOn []).reverse ++ [name] := by
    rw [withoutUps_eq, parts, List.foldl_append, List.foldl_cons, List.foldl_nil, goOn,
      if_neg noUp, List.reverse_cons]
  have free : ∀ others, (folder nodes).below? (withoutUps path.parts) ≠ some (.folder others) := by
    rw [target, below?_concat reached.below?_eq]
    exact noFolder
  have found := below?_put (.file content) (withoutUps path.parts) (.folder nodes)
  -- The tree with the file is a folder, and the parts lead through it as before.
  have here : (folder nodes).below? [] = some (.folder nodes) := rfl
  rcases exists_below?_put (.file content) (not_prefix_of_folder free here) here with
    ⟨others, root⟩
  rw [Option.some.inj root] at found ⊢
  have begun : Reached (put (.file content) (withoutUps path.parts) (.folder nodes)) [] []
      (.folder others) := by
    rw [← Option.some.inj root]
    exact .start
  rcases exists_follow_put free .start begun followed with ⟨final, followedPut⟩
  rcases exists_reached .start followedPut with ⟨abovePut, reachedPut, go⟩
  rw [target, below?_concat reachedPut.below?_eq] at found
  rw [read, at?_eq_follow sound, parts, go, follow_down short noUp found]
  rfl

end WinrtLint.Files.Node
