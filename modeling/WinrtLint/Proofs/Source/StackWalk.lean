import WinrtLint.Proofs.Pairs
import WinrtLint.Proofs.Source.Sites
import WinrtLint.Proofs.Source.TreeTables

/-!
# Walking a tree with a stack

The walk takes a row off its stack and puts the children of the row there
instead, the first of them on top.  Whatever stands on the stack, the rows of
the topmost one's subtree come first, in pre-order, and then what the rest of
the stack gives (`walks_subtree`).  So the walk from a row ends, and it
ends with the pre-order of the row (`walkFrom_eq_preorderFrom`).

A table is made into a tree from its last row to its first.  Each node of the
tree stands at a row and has the nodes at the row's children below it
(`exists_root`), and the pre-order of a node is the walk from its row
(`StandsAt.forall₂_preorder`).
-/

namespace WinrtLint.Source

/-- What is found while a stack, whose top is at its end, is taken down: each row is found as it
is taken off, and its children take its place, the first of them on top. -/
inductive Walks (parents : List (Option Nat)) : List Nat → List Nat → Prop where
  | done : Walks parents [] []
  | visit {stack found : List Nat} (index : Nat) :
      Walks parents (stack ++ (childRows parents index).reverse) found →
        Walks parents (stack ++ [index]) (index :: found)

/-- A walk with enough steps takes the whole stack down. -/
theorem Walks.walkRows_eq
    {parents : List (Option Nat)}
    {stack found : List Nat}
    {steps : Nat}
    (walks : Walks parents stack found)
    (enough : found.length ≤ steps) :
    walkRows parents steps stack.reverse = found := by
  induction walks generalizing steps with
  | done => cases steps <;> rfl
  | @visit stack found index _ induction =>
      cases steps with
      | zero => cases enough
      | succ steps =>
          have next := induction (Nat.le_of_succ_le_succ enough)
          rw [List.reverse_append, List.reverse_reverse] at next
          rw [List.reverse_append, List.reverse_singleton, List.singleton_append, walkRows, next]

/-- A stack is taken down in one way only. -/
theorem Walks.unique
    {parents : List (Option Nat)}
    {stack found other : List Nat}
    (walks : Walks parents stack found)
    (again : Walks parents stack other) :
    found = other := by
  rw [← walks.walkRows_eq (Nat.le_max_left found.length other.length),
    again.walkRows_eq (Nat.le_max_right found.length other.length)]

namespace TreeTable

variable {table : TreeTable} {index row : Nat}

theorem walks_subtree
    {stack found : List Nat}
    (rest : Walks table.parents stack found)
    (index : Nat) :
    Walks table.parents (stack ++ [index]) (table.preorderFrom index ++ found) := by
  induction index using table.induction_children generalizing stack found with
  | step index induction =>
      have forest : ∀ siblings ⊆ table.children index,
          Walks table.parents (stack ++ siblings.reverse)
            (siblings.flatMap table.preorderFrom ++ found) := by
        intro siblings
        induction siblings with
        | nil => simpa using rest
        | cons child siblings next =>
            intro among
            rw [List.cons_subset] at among
            have first := induction child among.1 (next among.2)
            rwa [List.append_assoc, ← List.reverse_cons, ← List.append_assoc,
              ← List.flatMap_cons] at first
      rw [preorderFrom_eq]
      exact .visit index (forest _ (List.Subset.refl _))

theorem walks_preorderFrom (table : TreeTable) (index : Nat) :
    Walks table.parents [index] (table.preorderFrom index) := by
  simpa using walks_subtree (Walks.done : Walks table.parents [] []) index

theorem walkFrom_eq_preorderFrom (inside : index < table.rows.length) :
    walkFrom table.parents index = table.preorderFrom index := by
  have enough : (table.preorderFrom index).length ≤ table.parents.length :=
    table.length_parents ▸ length_preorderFrom_le inside
  exact (table.walks_preorderFrom index).walkRows_eq enough

/-! ## The tree of a table -/

/-- A node stands at a row: it has the label of the row, and its children stand at the row's
children. -/
inductive StandsAt (table : TreeTable) (label : Row → Label) :
    Nat → Tree → Prop where
  | node
      {index : Nat}
      {row : Row}
      {trees : List Tree}
      (here : table.rows[index]? = some row)
      (below : List.Forall₂ (StandsAt table label) (table.children index) trees) :
      StandsAt table label index (.node (label row) trees)

variable {label : Row → Label}

/-- The nodes of a tree in pre-order stand at the rows of its row's subtree in pre-order. -/
theorem StandsAt.forall₂_preorder
    {tree : Tree}
    (stands : table.StandsAt label index tree) :
    List.Forall₂ (table.StandsAt label) (table.preorderFrom index) tree.preorder := by
  induction index using table.induction_children generalizing tree with
  | step index induction =>
      cases stands with
      | @node _ row trees here below =>
          rw [preorderFrom_eq, Tree.preorder_eq]
          have each := (List.forall₂_and_left _ _).2 ⟨fun _ member => member, below⟩
          exact .cons (.node here below)
            (List.rel_flatMap each fun child tree stands => induction child stands.1 stands.2)

/-- The parent that a row names. -/
def above (table : TreeTable) (row : Nat) : Option Nat :=
  table.parents[row]?.join

theorem mem_children_iff_above {child : Nat} :
    child ∈ table.children index ↔ table.above child = some index := by
  rw [mem_children, above, Option.join_eq_some_iff]

/-- The rows from an index on whose parents stand in front of it. -/
def waitingFrom (table : TreeTable) (index : Nat) : List Nat :=
  (List.range' index (table.rows.length - index)).filter fun row =>
    (table.above row).all (· < index)

theorem mem_waitingFrom :
    row ∈ table.waitingFrom index ↔
      index ≤ row ∧ row < table.rows.length ∧
        ∀ parent, table.above row = some parent → parent < index := by
  have bounds : index ≤ row ∧ row < index + (table.rows.length - index) ↔
      index ≤ row ∧ row < table.rows.length := by
    omega
  rw [waitingFrom, List.mem_filter, List.mem_range'_1, bounds, and_assoc, Option.all_eq_true]
  simp only [decide_eq_true_eq]

theorem pairwise_waitingFrom (table : TreeTable) (index : Nat) :
    (table.waitingFrom index).Pairwise (· < ·) :=
  List.Pairwise.filter _ List.pairwise_lt_range'

theorem children_eq_filter (table : TreeTable) (index : Nat) :
    table.children index =
      (table.waitingFrom (index + 1)).filter fun row => table.above row = some index := by
  refine (table.pairwise_children index).eq_of_mem_iff
    ((table.pairwise_waitingFrom (index + 1)).filter _) ?_
  intro child
  rw [List.mem_filter, mem_waitingFrom, decide_eq_true_eq, mem_children_iff_above]
  constructor
  · intro named
    have member := mem_children_iff_above.2 named
    refine ⟨⟨lt_of_mem_children member, lt_length_of_mem_children member, ?_⟩, named⟩
    intro parent same
    rw [named] at same
    cases same
    exact Nat.lt_succ_self index
  · exact And.right

theorem waitingFrom_eq_cons (inside : index < table.rows.length) :
    table.waitingFrom index =
      index :: (table.waitingFrom (index + 1)).filter
        fun row => !decide (table.above row = some index) := by
  have later : ∀ row ∈ (table.waitingFrom (index + 1)).filter
      fun row => !decide (table.above row = some index), index < row := by
    intro row member
    exact (mem_waitingFrom.1 (List.mem_of_mem_filter member)).1
  refine (table.pairwise_waitingFrom index).eq_of_mem_iff
    (List.pairwise_cons.2 ⟨later, (table.pairwise_waitingFrom (index + 1)).filter _⟩) ?_
  intro row
  rw [List.mem_cons, List.mem_filter, mem_waitingFrom, mem_waitingFrom, Bool.not_eq_true',
    decide_eq_false_iff_not]
  constructor
  · rintro ⟨least, among, front⟩
    by_cases same : row = index
    · exact Or.inl same
    · refine Or.inr ⟨⟨by omega, among, ?_⟩, ?_⟩
      · exact fun parent named => Nat.lt_succ_of_lt (front parent named)
      · exact fun named => absurd (front index named) (Nat.lt_irrefl index)
  · rintro (rfl | ⟨⟨least, among, front⟩, other⟩)
    · refine ⟨Nat.le_refl row, inside, ?_⟩
      exact fun parent named => lt_of_mem_children (mem_children_iff_above.2 named)
    · refine ⟨Nat.le_of_succ_le least, among, fun parent named => ?_⟩
      apply Nat.lt_of_le_of_ne (Nat.le_of_lt_succ (front parent named))
      rintro rfl
      exact other named

theorem waitingFrom_zero (table : TreeTable) : table.waitingFrom 0 = [0] := by
  refine (table.pairwise_waitingFrom 0).eq_of_mem_iff (List.pairwise_singleton _ 0) ?_
  intro row
  rw [mem_waitingFrom, List.mem_singleton]
  constructor
  · rintro ⟨-, among, front⟩
    by_contra notRoot
    rcases exists_parent among notRoot with ⟨parent, member⟩
    exact absurd (front parent (mem_children_iff_above.1 member)) (Nat.not_lt_zero parent)
  · rintro rfl
    refine ⟨Nat.le_refl 0, table.length_pos, fun parent named => ?_⟩
    rw [above, table.parent_zero] at named
    cases named

/-- The trees that wait while a table is read stand at the rows that wait. -/
theorem forall₂_assembleFrom
    (label : Row → Label)
    {rows : List Row}
    (here : table.rows.drop index = rows) :
    List.Forall₂ (fun row entry => table.above row = entry.1 ∧ table.StandsAt label row entry.2)
      (table.waitingFrom index) (assembleFrom label index rows) := by
  induction rows generalizing index with
  | nil =>
      rw [waitingFrom, Nat.sub_eq_zero_of_le (List.drop_eq_nil_iff.1 here)]
      exact .nil
  | cons row rows induction =>
      have found : table.rows[index]? = some row := by
        rw [← List.head?_drop, here, List.head?_cons]
      have rest : table.rows.drop (index + 1) = rows := by
        rw [← List.tail_drop, here, List.tail_cons]
      have named : table.above index = row.parent := by
        rw [above, parents, List.getElem?_map, found]
        rfl
      have waiting := induction rest
      -- Rows and trees are chosen by the parent that both name.
      have chosen := fun choose : Option Nat → Bool =>
        List.rel_filter (p := fun row => choose (table.above row))
          (q := fun entry : Option Nat × Tree => choose entry.1)
          (fun _ _ pair => iff_of_eq (congrArg (choose · = true) pair.1)) waiting
      rw [waitingFrom_eq_cons (List.getElem?_eq_some_iff.1 found).1, assembleFrom, assembleRow,
        List.partition_eq_filter_filter]
      refine .cons ⟨named, .node found ?_⟩ (chosen fun parent => !decide (parent = some index))
      rw [children_eq_filter, List.forall₂_map_right_iff]
      exact (chosen fun parent => decide (parent = some index)).imp fun _ _ pair => pair.2

/-- The tree that is made of a table stands at the first row. -/
theorem exists_root (table : TreeTable) (source : Bytes) :
    ∃ root, Tree.ofRows? source table.rows = some root ∧
      table.StandsAt (Row.label source (pointsOf source)) 0 root := by
  have waiting := forall₂_assembleFrom (Row.label source (pointsOf source))
    (List.drop_zero (l := table.rows))
  rw [waitingFrom_zero] at waiting
  rcases List.forall₂_cons_left_iff.1 waiting with ⟨entry, others, pair, -, assembled⟩
  refine ⟨entry.2, ?_, pair.2⟩
  rw [Tree.ofRows?]
  simp only [assembled]

/-- The walk with a stack from a row ends, and gives the rows of its subtree in pre-order. -/
theorem stack_walk_in_preorder (table : TreeTable) :
    (∀ index < table.rows.length,
      (∀ found, Walks table.parents [index] found ↔ found = walkFrom table.parents index) ∧
      walkFrom table.parents index = table.preorderFrom index ∧
      (walkFrom table.parents index).Nodup ∧
      (∀ row, row ∈ walkFrom table.parents index ↔ table.Reaches index row) ∧
      ∀ label tree, table.StandsAt label index tree →
        List.Forall₂ (table.StandsAt label) (walkFrom table.parents index) tree.preorder) ∧
    (∀ source, ∃ root, Tree.ofRows? source table.rows = some root ∧
      table.StandsAt (Row.label source (pointsOf source)) 0 root) ∧
    (walkFrom table.parents 0 = List.range table.rows.length ↔ table.ListedInPreorder) := by
  refine ⟨fun index inside => ?_, table.exists_root, ?_⟩
  · have walks := table.walks_preorderFrom index
    rw [walkFrom_eq_preorderFrom inside]
    refine ⟨fun found => ⟨fun other => other.unique walks, ?_⟩, rfl, table.nodup_preorderFrom index,
      fun row => mem_preorderFrom, fun label tree => StandsAt.forall₂_preorder⟩
    rintro rfl
    exact walks
  · rw [walkFrom_eq_preorderFrom table.length_pos]
    exact preorderFrom_root_eq_range_iff

/-- A row of which only the parent matters. -/
def plainRow (parent : Option Nat) : Row :=
  ⟨parent, "block", none, 0, 0, true, false⟩

/-- A tree of six nodes, listed level by level. -/
def levelTable : TreeTable :=
  ofRows ([none, some 0, some 0, some 1, some 2, some 1].map plainRow) rfl (by decide)

/-- The same tree, listed in pre-order. -/
def depthTable : TreeTable :=
  ofRows ([none, some 0, some 1, some 1, some 0, some 4].map plainRow) rfl (by decide)

theorem stack_walk_in_preorder_levelTable :
    Walks levelTable.parents [0] [0, 1, 3, 5, 2, 4] ∧ levelTable.preorderFrom 1 = [1, 3, 5] ∧
      levelTable.Reaches 1 5 ∧ ¬ levelTable.Reaches 1 4 ∧
      (∃ root, Tree.ofRows? #[] levelTable.rows = some root ∧
        List.Forall₂ (levelTable.StandsAt (Row.label #[] (pointsOf #[])))
          [0, 1, 3, 5, 2, 4] root.preorder) ∧
      ¬ levelTable.ListedInPreorder ∧ depthTable.ListedInPreorder := by
  rcases stack_walk_in_preorder levelTable with ⟨each, made, listed⟩
  rcases each 0 (by decide) with ⟨walks, -, -, -, stands⟩
  rcases each 1 (by decide) with ⟨-, same, -, members, -⟩
  rcases made #[] with ⟨root, built, isRoot⟩
  refine ⟨(walks _).2 (by decide), same.symm, (members 5).1 (by decide), ?_, ?_, ?_, ?_⟩
  · exact fun reaches => absurd ((members 4).2 reaches) (by decide)
  · exact ⟨root, built, stands _ root isRoot⟩
  · exact fun inOrder => absurd (listed.2 inOrder) (by decide)
  · exact (stack_walk_in_preorder depthTable).2.2.1 (by decide)

end TreeTable

end WinrtLint.Source
