import Mathlib.Data.Prod.Lex
import Mathlib.Order.Monotone.Basic
import WinrtLint.Proofs.Source.Sites
import WinrtLint.Source.RowTable

/-!
# Places in a source

Points are ordered by line and then by column.  The point of an offset is where
one comes to by reading on from the start of the source, and reading on never
leads back, so points follow the order of their offsets (`monotone_pointAt`).
When the rows of a tree start in order, in the pre-order of the tree, so do its
nodes (`pairwise_place_preorder`).
-/

namespace WinrtLint.Source

/-- A point among all points, which are ordered by line and then by column. -/
def Point.place (point : Point) : Nat ×ₗ Nat :=
  toLex (point.line, point.column)

theorem Point.place_le_iff {left right : Point} :
    left.place ≤ right.place ↔
      left.line < right.line ∨ left.line = right.line ∧ left.column ≤ right.column :=
  Prod.Lex.toLex_le_toLex

theorem Point.place_le_after (point : Point) (byte : UInt8) :
    point.place ≤ (point.after byte).place := by
  rw [Point.after, Point.place_le_iff]
  split
  · exact Or.inl (Nat.lt_succ_self _)
  · exact Or.inr ⟨rfl, Nat.le_succ _⟩

theorem toList_pointsOf (source : Bytes) :
    (pointsOf source).toList = List.scanl Point.after ⟨0, 0⟩ source.toList := by
  have walk : ∀ (bytes : List UInt8) (passed : Array Point) (point : Point),
      (bytes.foldl
        (fun (state : Array Point × Point) byte =>
          (state.1.push (state.2.after byte), state.2.after byte))
        (passed.push point, point)).1.toList =
        passed.toList ++ List.scanl Point.after point bytes := by
    intro bytes
    induction bytes with
    | nil => simp
    | cons byte rest induction =>
        intro passed point
        rw [List.foldl_cons, induction, List.scanl_cons]
        simp
  rw [pointsOf, ← Array.foldl_toList]
  exact walk source.toList #[] ⟨0, 0⟩

/-- The point of an offset is where reading on from the start leads to; past the end every step
is one more column. -/
theorem pointAt_pointsOf (source : Bytes) (offset : Nat) :
    pointAt (pointsOf source) offset =
      let reached := (source.toList.take offset).foldl Point.after ⟨0, 0⟩
      ⟨reached.line, reached.column + (offset - source.size)⟩ := by
  have entries : ∀ index : Nat, (pointsOf source)[index]? =
      if index ≤ source.size then
        some ((source.toList.take index).foldl Point.after ⟨0, 0⟩)
      else none := by
    intro index
    rw [← Array.getElem?_toList, toList_pointsOf, List.getElem?_scanl, Array.length_toList]
  have size : (pointsOf source).size = source.size + 1 := by
    rw [← Array.length_toList, toList_pointsOf, List.length_scanl, Array.length_toList]
  rw [pointAt, entries]
  by_cases inside : offset ≤ source.size
  · rw [if_pos inside, Nat.sub_eq_zero_of_le inside]
    rfl
  · have last : (pointsOf source).back? =
        some (source.toList.foldl Point.after ⟨0, 0⟩) := by
      rw [Array.back?_eq_getElem?, size, entries, if_pos (Nat.le_of_eq (Nat.add_sub_cancel ..)),
        Nat.add_sub_cancel, List.take_of_length_le (Nat.le_of_eq (Array.length_toList ..))]
    have all : source.toList.take offset = source.toList :=
      List.take_of_length_le (by rw [Array.length_toList]; omega)
    rw [if_neg inside, last, all, size]
    simp only [Option.getD_some, Nat.add_sub_add_right]

theorem monotone_pointAt (source : Bytes) :
    Monotone fun offset => (pointAt (pointsOf source) offset).place := by
  apply monotone_nat_of_le_succ
  intro offset
  rw [pointAt_pointsOf, pointAt_pointsOf]
  by_cases inside : offset < source.size
  · have next : source.toList.take (offset + 1) =
        source.toList.take offset ++ [source[offset]] := by
      rw [List.take_succ_eq_append_getElem (by simpa using inside)]
      rfl
    rw [next, List.foldl_append, Nat.sub_eq_zero_of_le inside.le, Nat.sub_eq_zero_of_le inside]
    exact Point.place_le_after _ _
  · have past : ∀ more, source.toList.take (offset + more) = source.toList := by
      intro more
      apply List.take_of_length_le
      rw [Array.length_toList]
      omega
    rw [past 1, show source.toList.take offset = source.toList from past 0]
    apply Point.place_le_iff.2
    exact Or.inr ⟨rfl, Nat.add_le_add_left (Nat.sub_le_sub_right (Nat.le_succ offset) _) _⟩

/-! ## Rows in pre-order -/

/-- Put a row in front of those of the waiting rows that stand below it. -/
def orderRow
    (index : Nat)
    (row : Row)
    (waiting : List (Option Nat × List Row)) :
    List (Option Nat × List Row) :=
  let (mine, others) := waiting.partition fun entry => entry.1 = some index
  (row.parent, row :: mine.flatMap (·.2)) :: others

/-- The rows from an index on, each with those below it in pre-order, whose parents stand before
the index. -/
def orderFrom (index : Nat) : List Row → List (Option Nat × List Row)
  | [] => []
  | row :: rest => orderRow index row (orderFrom (index + 1) rest)

/-- The rows of a table that belong to its tree, in the pre-order of the tree. -/
def preorderRows (rows : List Row) : List Row :=
  match orderFrom 0 rows with
  | [] => []
  | root :: _ => root.2

/-- What is to be told of a tree that waits for its parent. -/
def waitingLabels (entry : Option Nat × Tree) : Option Nat × List Label :=
  (entry.1, entry.2.preorder.map Tree.label)

theorem waitingLabels_node
    (parent : Option Nat)
    (label : Label)
    (children : List (Option Nat × Tree)) :
    waitingLabels (parent, .node label (children.map (·.2))) =
      (parent, label :: (children.map waitingLabels).flatMap (·.2)) := by
  rw [waitingLabels, Tree.preorder, Tree.preorderAll_eq, List.map_cons, List.map_flatMap,
    List.flatMap_map, List.flatMap_map]
  rfl

/-- The labels of the trees that wait while a table is read are those of the rows that wait. -/
theorem map_waitingLabels_assembleFrom
    (label : Row → Label)
    (index : Nat)
    (rows : List Row) :
    (assembleFrom label index rows).map waitingLabels =
      (orderFrom index rows).map fun entry => (entry.1, entry.2.map label) := by
  induction rows generalizing index with
  | nil => rfl
  | cons row rest induction =>
      -- Trees and rows are chosen by the number of the parent, which both have.
      have chosen : ∀ choose : Option Nat → Bool,
          ((assembleFrom label (index + 1) rest).filter fun entry => choose entry.1).map
              waitingLabels =
            ((orderFrom (index + 1) rest).filter fun entry => choose entry.1).map
              fun entry => (entry.1, entry.2.map label) := by
        intro choose
        have waiting := congrArg (List.filter fun entry => choose entry.1) (induction (index + 1))
        rw [List.filter_map, List.filter_map] at waiting
        exact waiting
      rw [assembleFrom, assembleRow, orderFrom, orderRow]
      simp only [List.partition_eq_filter_filter, List.map_cons, waitingLabels_node,
        chosen fun parent => decide (parent = some index), List.flatMap_map, List.map_flatMap]
      congr 1
      exact chosen fun parent => !decide (parent = some index)

theorem map_label_preorder
    {source : Bytes}
    {rows : List Row}
    {root : Tree}
    (built : Tree.ofRows? source rows = some root) :
    root.preorder.map Tree.label =
      (preorderRows rows).map (Row.label source (pointsOf source)) := by
  have same := map_waitingLabels_assembleFrom (Row.label source (pointsOf source)) 0 rows
  rw [Tree.ofRows?] at built
  rw [preorderRows]
  generalize assembleFrom (Row.label source (pointsOf source)) 0 rows = trees at built same
  generalize orderFrom 0 rows = ordered at same ⊢
  cases trees with
  | nil => cases built
  | cons first others =>
      cases built
      cases ordered with
      | nil => cases same
      | cons entry rest =>
          injection same with here
          exact congrArg Prod.snd here

/-- Where the rows of a tree start in order, in the pre-order of the tree, so do its nodes. -/
theorem pairwise_place_preorder
    {source : Bytes}
    {rows : List Row}
    {root : Tree}
    (built : Tree.ofRows? source rows = some root)
    (inOrder : (preorderRows rows).Pairwise fun left right => left.start ≤ right.start) :
    root.preorder.Pairwise fun left right =>
      left.label.start.place ≤ right.label.start.place := by
  have labels : ((preorderRows rows).map (Row.label source (pointsOf source))).Pairwise
      fun left right => left.start.place ≤ right.start.place := by
    apply List.pairwise_map.2
    exact inOrder.imp fun before => monotone_pointAt source before
  rw [← map_label_preorder built, List.pairwise_map] at labels
  exact labels

end WinrtLint.Source
