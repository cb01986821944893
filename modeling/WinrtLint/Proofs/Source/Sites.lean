import Mathlib.Data.List.Basic
import WinrtLint.Source.Binding

/-!
# Sites of a tree

The sites below a site are the site itself and those below its children
(`below_eq`), so whatever a step from a site to a child keeps holds of every
site of a tree.  In particular the sites of a tree are closed under taking
children, their nodes are those of the pre-order walk, and the way up from each
of them leads from child to parent and ends at the root.
-/

namespace WinrtLint.Source

theorem Tree.preorderAll_eq (trees : List Tree) :
    Tree.preorderAll trees = trees.flatMap Tree.preorder := by
  induction trees with
  | nil => rfl
  | cons tree rest induction => rw [Tree.preorderAll, List.flatMap_cons, induction]

theorem Tree.preorder_eq (tree : Tree) :
    tree.preorder = tree :: tree.children.flatMap Tree.preorder := by
  cases tree with
  | node label children => rw [Tree.preorder, Tree.preorderAll_eq]; rfl

theorem Tree.mem_preorder_of_mem_children
    {parent child node : Tree}
    (member : child ∈ parent.children)
    (inside : node ∈ child.preorder) :
    node ∈ parent.preorder := by
  rw [Tree.preorder_eq]
  exact List.mem_cons_of_mem _ (List.mem_flatMap.2 ⟨child, member, inside⟩)

/-- The nodes of a list are each a child of the next. -/
def Tree.IsWayUp (trees : List Tree) : Prop :=
  trees.IsChain fun child parent => child ∈ parent.children

/-- What stands below the first node of a way up stands below every other one. -/
theorem Tree.mem_preorder_of_isWayUp
    {first top node : Tree}
    {rest : List Tree}
    (way : Tree.IsWayUp (first :: rest))
    (above : top ∈ rest)
    (inside : node ∈ first.preorder) :
    node ∈ top.preorder := by
  induction rest generalizing first with
  | nil => cases above
  | cons next rest induction =>
      rcases List.isChain_cons_cons.1 way with ⟨step, wayOn⟩
      have insideNext := Tree.mem_preorder_of_mem_children step inside
      rcases List.mem_cons.1 above with rfl | later
      · exact insideNext
      · exact induction wayOn later insideNext

theorem Tree.sitesBelow_eq
    (address : List Nat)
    (ancestors : List Tree)
    (position : Nat)
    (trees : List Tree) :
    Tree.sitesBelow address ancestors position trees =
      (trees.zipIdx position).flatMap fun entry =>
        Tree.sitesFrom (entry.2 :: address) ancestors entry.1 := by
  induction trees generalizing position with
  | nil => rfl
  | cons tree rest induction =>
      rw [Tree.sitesBelow, List.zipIdx_cons, List.flatMap_cons, induction]

namespace Site

/-- What holds of a site whenever it holds of its children holds of every site. -/
theorem induction_children
    {motive : Site → Prop}
    (step : ∀ site, (∀ child ∈ site.children, motive child) → motive site)
    (site : Site) :
    motive site :=
  step site fun child member =>
    have := sizeOf_mem_children member
    induction_children step child
termination_by sizeOf site.node

/-- The sites of a site's node and of all that stands below it, in pre-order. -/
def below (site : Site) : List Site :=
  site.node.sitesFrom site.address site.ancestors

theorem below_eq (site : Site) :
    site.below = site :: site.children.flatMap below := by
  rcases site with ⟨⟨label, children⟩, address, ancestors⟩
  rw [below, Tree.sitesFrom, Tree.sitesBelow_eq, Site.children, List.flatMap_map]
  rfl

/-- The sites of trees that stand side by side below a site, the first of them at a position. -/
def placed (site : Site) (position : Nat) (trees : List Tree) : List Site :=
  (trees.zipIdx position).map fun entry =>
    ⟨entry.1, entry.2 :: site.address, site.node :: site.ancestors⟩

/-- The sites of such trees and of all that stands below them. -/
def belowFrom (site : Site) (position : Nat) (trees : List Tree) : List Site :=
  (site.placed position trees).flatMap below

theorem below_eq_belowFrom (site : Site) :
    site.below = site :: site.belowFrom 0 site.node.children :=
  site.below_eq

theorem belowFrom_cons
    (site : Site)
    (position : Nat)
    (tree : Tree)
    (trees : List Tree) :
    site.belowFrom position (tree :: trees) =
      below ⟨tree, position :: site.address, site.node :: site.ancestors⟩ ++
        site.belowFrom (position + 1) trees :=
  rfl

theorem belowFrom_append
    (site : Site)
    (position : Nat)
    (trees others : List Tree) :
    site.belowFrom position (trees ++ others) =
      site.belowFrom position trees ++ site.belowFrom (position + trees.length) others := by
  rw [belowFrom, placed, List.zipIdx_append, List.map_append, List.flatMap_append]
  rfl

theorem mem_below_self (site : Site) : site ∈ site.below := by
  rw [below_eq]
  exact List.mem_cons_self

theorem ancestors_of_mem_children
    {site child : Site}
    (member : child ∈ site.children) :
    child.ancestors = site.node :: site.ancestors := by
  rcases List.mem_map.1 member with ⟨entry, -, rfl⟩
  rfl

theorem mem_below_of_mem_children
    {top site child : Site}
    (inside : site ∈ top.below)
    (member : child ∈ site.children) :
    child ∈ top.below := by
  induction top using induction_children with
  | step top induction =>
      rw [below_eq] at inside ⊢
      apply List.mem_cons_of_mem
      apply List.mem_flatMap.2
      rcases List.mem_cons.1 inside with rfl | later
      · exact ⟨child, member, child.mem_below_self⟩
      · rcases List.mem_flatMap.1 later with ⟨other, otherMember, deeper⟩
        exact ⟨other, otherMember, induction other otherMember deeper⟩

/-- The way up from a site below another one ends where the way up from that one ends. -/
theorem getLast?_of_mem_below {top site : Site} (inside : site ∈ top.below) :
    (site.node :: site.ancestors).getLast? = (top.node :: top.ancestors).getLast? := by
  induction top using induction_children with
  | step top induction =>
      rw [below_eq] at inside
      rcases List.mem_cons.1 inside with rfl | later
      · rfl
      · rcases List.mem_flatMap.1 later with ⟨child, member, deeper⟩
        rw [induction child member deeper, ancestors_of_mem_children member,
          List.getLast?_cons_cons]

theorem map_node_children (site : Site) :
    site.children.map (·.node) = site.node.children := by
  rw [children, List.map_map]
  exact List.zipIdx_map_fst 0 site.node.children

/-- Addresses grow as the way up does. -/
theorem length_address_of_mem_below
    {top site : Site}
    (aligned : top.address.length = top.ancestors.length)
    (inside : site ∈ top.below) :
    site.address.length = site.ancestors.length := by
  induction top using induction_children with
  | step top induction =>
      rw [below_eq] at inside
      rcases List.mem_cons.1 inside with rfl | later
      · exact aligned
      · rcases List.mem_flatMap.1 later with ⟨child, member, deeper⟩
        apply induction child member _ deeper
        rcases List.mem_map.1 member with ⟨entry, -, rfl⟩
        exact congrArg (· + 1) aligned

theorem node_mem_children {site child : Site} (member : child ∈ site.children) :
    child.node ∈ site.node.children := by
  rw [← map_node_children]
  exact List.mem_map_of_mem member

/-- The way up from a site below another one goes from child to parent. -/
theorem isWayUp_of_mem_below
    {top site : Site}
    (way : Tree.IsWayUp (top.node :: top.ancestors))
    (inside : site ∈ top.below) :
    Tree.IsWayUp (site.node :: site.ancestors) := by
  induction top using induction_children with
  | step top induction =>
      rw [below_eq] at inside
      rcases List.mem_cons.1 inside with rfl | later
      · exact way
      · rcases List.mem_flatMap.1 later with ⟨child, member, deeper⟩
        apply induction child member _ deeper
        rw [ancestors_of_mem_children member]
        exact List.isChain_cons_cons.2 ⟨node_mem_children member, way⟩

theorem map_node_below (site : Site) :
    site.below.map (·.node) = site.node.preorder := by
  induction site using induction_children with
  | step site induction =>
      rw [below_eq, Tree.preorder_eq, List.map_cons, List.map_flatMap, ← map_node_children,
        List.flatMap_map]
      congr 1
      apply List.flatMap_congr
      exact induction

theorem mem_preorder_of_mem_belowFrom
    {top site : Site}
    {position : Nat}
    {trees : List Tree}
    (inside : site ∈ top.belowFrom position trees) :
    ∃ tree ∈ trees, site.node ∈ tree.preorder := by
  rcases List.mem_flatMap.1 inside with ⟨child, placed, deeper⟩
  rcases List.mem_map.1 placed with ⟨entry, listed, rfl⟩
  refine ⟨entry.1, List.fst_mem_of_mem_zipIdx listed, ?_⟩
  have listed := List.mem_map_of_mem (f := fun site : Site => site.node) deeper
  rwa [map_node_below] at listed

theorem mem_children_of_childIn?
    {site child : Site}
    {field : Field}
    (found : site.childIn? field = some child) :
    child ∈ site.children :=
  List.mem_of_find?_eq_some found

end Site

namespace Tree

theorem map_node_sites (root : Tree) :
    root.sites.map (·.node) = root.preorder :=
  Site.map_node_below ⟨root, [], []⟩

theorem mem_sites_of_childIn?
    {root : Tree}
    {site child : Site}
    (inside : site ∈ root.sites)
    {field : Field}
    (found : site.childIn? field = some child) :
    child ∈ root.sites :=
  Site.mem_below_of_mem_children (show site ∈ (⟨root, [], []⟩ : Site).below from inside)
    (Site.mem_children_of_childIn? found)

theorem getLast?_of_mem_sites
    {root : Tree}
    {site : Site}
    (inside : site ∈ root.sites) :
    (site.node :: site.ancestors).getLast? = some root :=
  Site.getLast?_of_mem_below (show site ∈ (⟨root, [], []⟩ : Site).below from inside)

theorem length_address_of_mem_sites
    {root : Tree}
    {site : Site}
    (inside : site ∈ root.sites) :
    site.address.length = site.ancestors.length :=
  Site.length_address_of_mem_below rfl (show site ∈ (⟨root, [], []⟩ : Site).below from inside)

theorem isWayUp_of_mem_sites
    {root : Tree}
    {site : Site}
    (inside : site ∈ root.sites) :
    IsWayUp (site.node :: site.ancestors) :=
  Site.isWayUp_of_mem_below (show IsWayUp [root] from .singleton root)
    (show site ∈ (⟨root, [], []⟩ : Site).below from inside)

/-- The nodes above a site are nodes of its tree. -/
theorem mem_preorder_of_mem_ancestors
    {root ancestor : Tree}
    {site : Site}
    (inside : site ∈ root.sites)
    (above : ancestor ∈ site.ancestors) :
    ancestor ∈ root.preorder := by
  have way := isWayUp_of_mem_sites inside
  have last := getLast?_of_mem_sites inside
  have member : ancestor ∈ site.node :: site.ancestors := List.mem_cons_of_mem _ above
  generalize site.node :: site.ancestors = trees at way last member
  induction trees with
  | nil => cases member
  | cons first rest induction =>
      cases rest with
      | nil =>
          cases last
          rw [List.mem_singleton.1 member, preorder_eq]
          exact List.mem_cons_self
      | cons next rest =>
          rw [List.getLast?_cons_cons] at last
          rcases List.mem_cons.1 member with rfl | later
          · refine mem_preorder_of_isWayUp way (List.mem_of_getLast? last) ?_
            rw [preorder_eq]
            exact List.mem_cons_self
          · exact induction way.of_cons last later

end Tree

end WinrtLint.Source
