import WinrtLint.Source.Kind

/-!
# Syntax trees and sites

A syntax tree is a label over a list of trees.  A site is a node together with
the way that leads to it: its ancestors and its address.  Everything that
binding asks about the surroundings of a node is a question about its site.
-/

namespace WinrtLint.Source

/-- A place in a source file, counted from zero; columns count bytes. -/
structure Point where
  line : Nat
  column : Nat
  deriving DecidableEq, Repr, Inhabited

/-- What a node says of itself. -/
structure Label where
  kind : Kind
  /-- The field of the parent in which the node stands. -/
  field : Option Field := none
  /-- The source text that the node covers, which is read off when it is asked for. -/
  text : Thunk String := .pure ""
  start : Point := ⟨0, 0⟩
  stop : Point := ⟨0, 0⟩
  /-- Whether the grammar names the node, unlike a keyword or a bracket. -/
  isNamed : Bool := true
  /-- Whether the node was made up to recover from an error. -/
  isMissing : Bool := false

/-- A node of a syntax tree with all that stands below it. -/
inductive Tree where
  | node (label : Label) (children : List Tree)

namespace Tree

/-- The label of the topmost node. -/
def label : Tree → Label
  | .node label _ => label

/-- The trees directly below. -/
def children : Tree → List Tree
  | .node _ children => children

/-- The kind of the topmost node. -/
def kind (tree : Tree) : Kind :=
  tree.label.kind

/-- The source text of the topmost node. -/
def text (tree : Tree) : String :=
  tree.label.text.get

/-- The children that the grammar names. -/
def namedChildren (tree : Tree) : List Tree :=
  tree.children.filter (·.label.isNamed)

/-- The first child in a field. -/
def childIn? (tree : Tree) (field : Field) : Option Tree :=
  tree.children.find? fun child => child.label.field = some field

/-- The first child of a kind. -/
def childOf? (tree : Tree) (kind : Kind) : Option Tree :=
  tree.children.find? fun child => child.kind = kind

/-- The first child of a kind that the grammar names. -/
def namedChildOf? (tree : Tree) (kind : Kind) : Option Tree :=
  tree.namedChildren.find? fun child => child.kind = kind

/-- Whether a child of a kind is there. -/
def hasChildOf (tree : Tree) (kind : Kind) : Bool :=
  tree.children.any fun child => child.kind = kind

mutual

/-- The nodes of a tree, each before those below it, from left to right. -/
def preorder : Tree → List Tree
  | .node label children => .node label children :: preorderAll children

/-- The nodes of trees that stand side by side. -/
def preorderAll : List Tree → List Tree
  | [] => []
  | tree :: rest => preorder tree ++ preorderAll rest

end

end Tree

/-- A node and the way that leads to it. -/
structure Site where
  node : Tree
  /-- Positions among siblings, of the node itself first and then upward. -/
  address : List Nat := []
  /-- The nodes above, innermost first. -/
  ancestors : List Tree := []

namespace Site

/-- The sites of the trees directly below. -/
def children (site : Site) : List Site :=
  site.node.children.zipIdx.map fun (child, position) =>
    ⟨child, position :: site.address, site.node :: site.ancestors⟩

/-- The site of the first child in a field. -/
def childIn? (site : Site) (field : Field) : Option Site :=
  site.children.find? fun child => child.node.label.field = some field

/-- The site of the first child that the grammar names. -/
def firstNamed? (site : Site) : Option Site :=
  site.children.find? fun child => child.node.label.isNamed

end Site

namespace Tree

mutual

/-- The sites of a tree's nodes in pre-order, given the way to its topmost node. -/
def sitesFrom (address : List Nat) (ancestors : List Tree) : Tree → List Site
  | .node label children =>
      ⟨.node label children, address, ancestors⟩ ::
        sitesBelow address (.node label children :: ancestors) 0 children

/-- The sites of the trees below a node, the first of them at a position. -/
def sitesBelow (address : List Nat) (ancestors : List Tree) (position : Nat) :
    List Tree → List Site
  | [] => []
  | tree :: rest =>
      sitesFrom (position :: address) ancestors tree ++
        sitesBelow address ancestors (position + 1) rest

end

/-- The sites of all nodes of a tree in pre-order. -/
def sites (root : Tree) : List Site :=
  sitesFrom [] [] root

end Tree

end WinrtLint.Source
