import Mathlib.Data.List.Chain
import Mathlib.Data.List.Nodup
import Mathlib.Data.List.Perm.Subperm
import Mathlib.Data.List.Sort
import Mathlib.Logic.Relation
import WinrtLint.Source.RowTable

/-!
# Tables that hold one tree

In a table that holds one tree every row but one names a row in front of it as
its parent.  So children come after their parents, and whatever passes from the
children of a row to the row holds of all rows (`induction_children`).  The
pre-order of a row is the row itself and then the pre-orders of its children:
it has every row of the subtree once and no other (`mem_preorderFrom`,
`nodup_preorderFrom`).

A table is listed in pre-order if every row follows the one in front of it: it
is a child of that row or of an ancestor of that row.  This is so exactly if the
pre-order of the root counts the rows (`preorderFrom_root_eq_range_iff`).
-/

namespace WinrtLint.Source

/-- The rows of one tree: a single row has no parent, and the parent of any other stands in front
of it. -/
structure TreeTable where
  rows : List Row
  one_root : ∃! root : Nat, (rows.map Row.parent)[root]? = some none
  parent_lt : ∀ child parent : Nat,
    (rows.map Row.parent)[child]? = some (some parent) → parent < child

namespace TreeTable

variable {table : TreeTable} {index row child : Nat}

/-- Rows are those of one tree if the first of them has no parent and every other one names a row
in front of it. -/
def ofRows
    (rows : List Row)
    (first : (rows.map Row.parent)[0]? = some none)
    (others : ∀ entry ∈ (rows.map Row.parent).zipIdx, entry.2 ≠ 0 →
      ∃ parent ∈ entry.1, parent < entry.2) :
    TreeTable where
  rows := rows
  one_root := by
    refine ⟨0, first, fun root isRoot => ?_⟩
    by_contra notFirst
    rcases others (none, root) (List.mk_mem_zipIdx_iff_getElem?.2 isRoot) notFirst with
      ⟨parent, named, -⟩
    cases named
  parent_lt child parent named := by
    have notFirst : child ≠ 0 := by
      rintro rfl
      rw [first] at named
      cases named
    rcases others (some parent, child) (List.mk_mem_zipIdx_iff_getElem?.2 named) notFirst with
      ⟨other, same, before⟩
    cases same
    exact before

/-- The parent that each row names. -/
def parents (table : TreeTable) : List (Option Nat) :=
  table.rows.map Row.parent

theorem length_parents (table : TreeTable) :
    table.parents.length = table.rows.length :=
  List.length_map ..

/-- The rows that name a row as their parent, in the order of the table. -/
def children (table : TreeTable) (index : Nat) : List Nat :=
  childRows table.parents index

theorem mem_children :
    child ∈ table.children index ↔ table.parents[child]? = some (some index) := by
  rw [children, childRows, List.mem_filter, List.mem_range, decide_eq_true_eq]
  exact and_iff_right_of_imp fun named => (List.getElem?_eq_some_iff.1 named).1

theorem parent_unique
    {parent other : Nat}
    (member : child ∈ table.children parent)
    (again : child ∈ table.children other) :
    parent = other := by
  have named := mem_children.1 member
  rw [mem_children.1 again] at named
  cases named
  rfl

theorem pairwise_children (table : TreeTable) (index : Nat) :
    (table.children index).Pairwise (· < ·) :=
  List.pairwise_lt_range.filter _

theorem lt_of_mem_children (member : child ∈ table.children index) :
    index < child :=
  table.parent_lt child index (mem_children.1 member)

theorem lt_length_of_mem_children (member : child ∈ table.children index) :
    child < table.rows.length := by
  rw [← table.length_parents]
  exact (List.getElem?_eq_some_iff.1 (mem_children.1 member)).1

/-- What holds of a row whenever it holds of its children holds of every row. -/
theorem induction_children
    (table : TreeTable)
    {motive : Nat → Prop}
    (step : ∀ index, (∀ child ∈ table.children index, motive child) → motive index)
    (index : Nat) :
    motive index :=
  step index fun child member =>
    have := lt_of_mem_children member
    have := lt_length_of_mem_children member
    table.induction_children step child
termination_by table.rows.length - index

/-! ## The rows of a subtree -/

/-- A row is in the subtree of another one: a way leads there from parent to child. -/
def Reaches (table : TreeTable) : Nat → Nat → Prop :=
  Relation.ReflTransGen fun parent child => child ∈ table.children parent

theorem Reaches.le (reaches : table.Reaches index row) : index ≤ row := by
  induction reaches with
  | refl => exact Nat.le_refl index
  | tail _ member induction => exact Nat.le_trans induction (lt_of_mem_children member).le

theorem not_reaches_of_siblings
    {first second : Nat}
    (isFirst : first ∈ table.children index)
    (isSecond : second ∈ table.children index)
    (different : first ≠ second) :
    ¬ table.Reaches first second := by
  intro reaches
  rcases Relation.ReflTransGen.cases_tail reaches with same | ⟨parent, above, member⟩
  · exact different same.symm
  · cases parent_unique isSecond member
    exact absurd (lt_of_mem_children isFirst) (Nat.not_lt_of_le (Reaches.le above))

/-- A row has one parent, so of two rows whose subtrees share it one is in the other's subtree. -/
theorem Reaches.total
    {first second : Nat}
    (fromFirst : table.Reaches first row)
    (fromSecond : table.Reaches second row) :
    table.Reaches first second ∨ table.Reaches second first := by
  rw [Reaches, ← Relation.reflTransGen_swap] at fromFirst fromSecond
  rw [Reaches, ← Relation.reflTransGen_swap, Or.comm, ← Relation.reflTransGen_swap]
  exact Relation.ReflTransGen.total_of_right_unique (fun _ _ _ => parent_unique) fromFirst
    fromSecond

/-- The row itself and then the pre-orders of its children. -/
def preorderFrom (table : TreeTable) (index : Nat) : List Nat :=
  index :: (table.children index).attach.flatMap fun child => table.preorderFrom child.1
termination_by table.rows.length - index
decreasing_by
  have later := lt_of_mem_children child.2
  have inside := lt_length_of_mem_children child.2
  omega

theorem preorderFrom_eq (table : TreeTable) (index : Nat) :
    table.preorderFrom index = index :: (table.children index).flatMap table.preorderFrom := by
  rw [preorderFrom, ← List.flatMap_map Subtype.val table.preorderFrom,
    List.attach_map_subtype_val]

theorem mem_preorderFrom : row ∈ table.preorderFrom index ↔ table.Reaches index row := by
  induction index using table.induction_children with
  | step index induction =>
      rw [preorderFrom_eq, List.mem_cons, List.mem_flatMap, Reaches,
        Relation.ReflTransGen.cases_head_iff, eq_comm]
      refine or_congr Iff.rfl (exists_congr fun child => and_congr_right fun member => ?_)
      exact induction child member

theorem nodup_preorderFrom (table : TreeTable) (index : Nat) :
    (table.preorderFrom index).Nodup := by
  induction index using table.induction_children with
  | step index induction =>
      rw [preorderFrom_eq, List.nodup_cons, List.nodup_flatMap]
      refine ⟨?_, induction, ?_⟩
      · intro again
        rcases List.mem_flatMap.1 again with ⟨child, member, inside⟩
        exact absurd (lt_of_mem_children member)
          (Nat.not_lt_of_le (mem_preorderFrom.1 inside).le)
      · refine (table.pairwise_children index).imp_of_mem ?_
        intro first second isFirst isSecond before row inFirst inSecond
        rcases (mem_preorderFrom.1 inFirst).total (mem_preorderFrom.1 inSecond) with down | down
        · exact not_reaches_of_siblings isFirst isSecond before.ne down
        · exact not_reaches_of_siblings isSecond isFirst before.ne' down

theorem Reaches.lt_length
    (inside : index < table.rows.length)
    (reaches : table.Reaches index row) :
    row < table.rows.length := by
  rcases Relation.ReflTransGen.cases_tail reaches with rfl | ⟨parent, -, member⟩
  · exact inside
  · exact lt_length_of_mem_children member

theorem length_preorderFrom_le (inside : index < table.rows.length) :
    (table.preorderFrom index).length ≤ table.rows.length := by
  have among : table.preorderFrom index ⊆ List.range table.rows.length := by
    intro row member
    exact List.mem_range.2 ((mem_preorderFrom.1 member).lt_length inside)
  have subperm := (table.nodup_preorderFrom index).subperm among
  exact subperm.length_le.trans_eq List.length_range

/-! ## Tables in pre-order -/

theorem parent_zero (table : TreeTable) : table.parents[0]? = some none := by
  rcases table.one_root with ⟨root, isRoot, -⟩
  have inside : 0 < table.parents.length :=
    Nat.zero_lt_of_lt (List.getElem?_eq_some_iff.1 isRoot).1
  rw [List.getElem?_eq_getElem inside, Option.some_inj]
  cases parent : table.parents[0] with
  | none => rfl
  | some above =>
      have named := List.getElem?_eq_getElem inside
      rw [parent] at named
      exact absurd (table.parent_lt 0 above named) (Nat.not_lt_zero above)

theorem length_pos (table : TreeTable) : 0 < table.rows.length := by
  rw [← table.length_parents]
  exact (List.getElem?_eq_some_iff.1 table.parent_zero).1

theorem exists_parent (inside : row < table.rows.length) (notRoot : row ≠ 0) :
    ∃ parent, row ∈ table.children parent := by
  rw [← table.length_parents] at inside
  have named := List.getElem?_eq_getElem inside
  cases parent : table.parents[row] with
  | none =>
      rw [parent] at named
      exact absurd (table.one_root.unique named table.parent_zero) notRoot
  | some above =>
      rw [parent] at named
      exact ⟨above, mem_children.2 named⟩

/-- Every row is in the subtree of the first one. -/
theorem reaches_of_root (inside : row < table.rows.length) :
    table.Reaches 0 row := by
  induction row using Nat.strong_induction_on with
  | h row induction =>
      by_cases isRoot : row = 0
      · rw [isRoot]
        exact .refl
      · rcases exists_parent inside isRoot with ⟨parent, member⟩
        have before := lt_of_mem_children member
        exact .tail (induction parent before (before.trans inside)) member

/-- A row is a child of the one in front of it or of an ancestor of that one. -/
def Follows (table : TreeTable) (front row : Nat) : Prop :=
  ∃ parent, row ∈ table.children parent ∧ table.Reaches parent front

/-- Every row but the first one follows the row that the table has in front of it. -/
def ListedInPreorder (table : TreeTable) : Prop :=
  ∀ front, front + 1 < table.rows.length → table.Follows front (front + 1)

/-- In a table that is listed in pre-order the rows of a subtree stand together. -/
theorem ListedInPreorder.reaches_between
    (listed : table.ListedInPreorder)
    {between : Nat}
    (reaches : table.Reaches index row)
    (least : index ≤ between)
    (greatest : between ≤ row) :
    table.Reaches index between := by
  induction row, greatest using Nat.le_induction with
  | base => exact reaches
  | succ row further induction =>
      apply induction
      rcases Relation.ReflTransGen.cases_tail reaches with same | ⟨parent, above, member⟩
      · omega
      · rcases listed row (lt_length_of_mem_children member) with ⟨other, again, down⟩
        cases parent_unique member again
        exact .trans above down

theorem ListedInPreorder.pairwise_preorderFrom
    (listed : table.ListedInPreorder)
    (index : Nat) :
    (table.preorderFrom index).Pairwise (· < ·) := by
  induction index using table.induction_children with
  | step index induction =>
      rw [preorderFrom_eq, List.pairwise_cons, List.pairwise_flatMap]
      refine ⟨?_, induction, ?_⟩
      · intro row below
        rcases List.mem_flatMap.1 below with ⟨child, member, inside⟩
        exact Nat.lt_of_lt_of_le (lt_of_mem_children member) (mem_preorderFrom.1 inside).le
      · refine (table.pairwise_children index).imp_of_mem ?_
        intro first second isFirst isSecond before early inFirst late inSecond
        -- Otherwise the second child would stand among the rows of the first one's subtree.
        by_contra crossed
        have behind := (mem_preorderFrom.1 inSecond).le
        exact not_reaches_of_siblings isFirst isSecond before.ne
          (listed.reaches_between (mem_preorderFrom.1 inFirst) before.le (by omega))

/-- In the pre-order of a row each row follows the one before it, whatever the table's order. -/
theorem isChain_preorderFrom (table : TreeTable) (index : Nat) :
    (table.preorderFrom index).IsChain table.Follows := by
  induction index using table.induction_children with
  | step index induction =>
      have forest : ∀ siblings ⊆ table.children index,
          (siblings.flatMap table.preorderFrom).IsChain table.Follows ∧
            ∀ row ∈ (siblings.flatMap table.preorderFrom).head?, row ∈ table.children index := by
        intro siblings
        induction siblings with
        | nil => exact fun _ => ⟨.nil, fun row first => nomatch first⟩
        | cons child siblings next =>
            intro among
            rw [List.cons_subset] at among
            rcases next among.2 with ⟨chained, starts⟩
            rw [List.flatMap_cons, List.isChain_append]
            refine ⟨⟨induction child among.1, chained, ?_⟩, ?_⟩
            · intro front isLast row isNext
              have inside := mem_preorderFrom.1 (List.mem_of_getLast? isLast)
              exact ⟨index, starts row isNext, .head among.1 inside⟩
            · intro row first
              rw [preorderFrom_eq, List.cons_append, List.head?_cons, Option.mem_some_iff] at first
              exact first ▸ among.1
      rcases forest _ (List.Subset.refl _) with ⟨chained, starts⟩
      rw [preorderFrom_eq, List.isChain_cons]
      exact ⟨fun row isNext => ⟨index, starts row isNext, .refl⟩, chained⟩

theorem preorderFrom_root_eq_range_iff :
    table.preorderFrom 0 = List.range table.rows.length ↔ table.ListedInPreorder := by
  constructor
  · intro counted front inside
    have chained := table.isChain_preorderFrom 0
    rw [counted, List.isChain_iff_getElem] at chained
    have follows := chained front (by rwa [List.length_range])
    rwa [List.getElem_range, List.getElem_range] at follows
  · intro listed
    refine (listed.pairwise_preorderFrom 0).eq_of_mem_iff List.pairwise_lt_range ?_
    intro row
    rw [mem_preorderFrom, List.mem_range]
    exact ⟨Reaches.lt_length table.length_pos, reaches_of_root⟩

end TreeTable

end WinrtLint.Source
