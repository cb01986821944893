import WinrtLint.Proofs.Source.SameSource

/-!
# The same nodes in different surroundings

Nodes that are written alike may stand below different nodes in two units
(`Site.Beside`).  If the nodes around them open the same namespace and neither
declare types nor hold locals (`SameSurroundings`), then the nodes are taken in
alike (`foldl_read_beside`) and have the same answers (`Site.Beside.symbolAt_eq`).
Which of the nodes around opens the namespace does not matter, nor whether the
file does.
-/

namespace WinrtLint.Source

/-! ## Namespaces around nodes -/

/-- The names of the namespaces that the nodes of a way up open, outermost first. -/
def openedNames (ancestors : List Tree) : List String :=
  ((ancestors.filter (·.kind.opensNamespace)).filterMap Tree.namespaceName?).reverse

/-- The segments of the name of the namespace around a site. -/
def segmentsAround (fileNamespace : Option String) (ancestors : List Tree) :
    List String :=
  (if (ancestors.filter (·.kind.opensNamespace)).any
      fun opener => opener.kind = .fileScopedNamespace then openedNames ancestors
    else fileNamespace.toList ++ openedNames ancestors).flatMap DottedName.segments

theorem namespacesAt_eq_segmentsAround
    (declarations : Declarations)
    (ancestors : List Tree) :
    declarations.namespacesAt ancestors =
      (List.range (segmentsAround declarations.fileNamespace ancestors).length).reverse.map
        fun last => Text.joinStrings "."
          ((segmentsAround declarations.fileNamespace ancestors).take (last + 1)) :=
  rfl

theorem openedNames_append (inner outer : List Tree) :
    openedNames (inner ++ outer) = openedNames outer ++ openedNames inner := by
  rw [openedNames, List.filter_append, List.filterMap_append, List.reverse_append]
  rfl

/-- Nodes further in extend the namespace around, unless they open a file-scoped one. -/
theorem segmentsAround_append
    (fileNamespace : Option String)
    {inner : List Tree}
    (noFile : ∀ tree ∈ inner, tree.kind ≠ .fileScopedNamespace)
    (outer : List Tree) :
    segmentsAround fileNamespace (inner ++ outer) =
      segmentsAround fileNamespace outer ++
        (openedNames inner).flatMap DottedName.segments := by
  have none : ((inner.filter (·.kind.opensNamespace)).any
      fun opener => opener.kind = .fileScopedNamespace) = false := by
    refine List.any_eq_false.2 fun tree member => ?_
    simpa using noFile tree (List.mem_of_mem_filter member)
  rw [segmentsAround, segmentsAround, openedNames_append, List.filter_append, List.any_append, none,
    Bool.false_or, ← List.flatMap_append]
  split
  · rfl
  · rw [List.append_assoc]

theorem segmentsAround_cons_of_block
    {tree : Tree}
    {name : String}
    (isBlock : tree.kind = .namespaceBlock)
    (named : tree.namespaceName? = some name)
    (fileNamespace : Option String)
    (outer : List Tree) :
    segmentsAround fileNamespace (tree :: outer) =
      segmentsAround fileNamespace outer ++ DottedName.segments name := by
  have noFile : ∀ other ∈ [tree], other.kind ≠ .fileScopedNamespace := by simp [isBlock]
  have opened : openedNames [tree] = [name] := by
    simp [openedNames, isBlock, Kind.opensNamespace, named]
  have step := segmentsAround_append fileNamespace noFile outer
  rwa [opened, List.flatMap_singleton, List.singleton_append] at step

theorem segmentsAround_cons_of_not
    {tree : Tree}
    (closed : tree.kind.opensNamespace = false)
    (fileNamespace : Option String)
    (outer : List Tree) :
    segmentsAround fileNamespace (tree :: outer) = segmentsAround fileNamespace outer := by
  rw [segmentsAround, segmentsAround, openedNames, openedNames,
    List.filter_cons_of_neg (by simp [closed])]

/-- Where no node opens a namespace, that of the file counts. -/
theorem segmentsAround_of_closed
    (fileNamespace : Option String)
    {outer : List Tree}
    (closed : ∀ other ∈ outer, other.kind.opensNamespace = false) :
    segmentsAround fileNamespace outer = fileNamespace.toList.flatMap DottedName.segments := by
  have openers : outer.filter (·.kind.opensNamespace) = [] :=
    List.filter_eq_nil_iff.2 fun other member => by simp [closed other member]
  rw [segmentsAround, openedNames, openers]
  simp

/-- Inside a file-scoped declaration its name counts, and not that of the file. -/
theorem segmentsAround_cons_of_fileScoped
    {tree : Tree}
    {name : String}
    (isFile : tree.kind = .fileScopedNamespace)
    (named : tree.namespaceName? = some name)
    (fileNamespace : Option String)
    {outer : List Tree}
    (closed : ∀ other ∈ outer, other.kind.opensNamespace = false) :
    segmentsAround fileNamespace (tree :: outer) = DottedName.segments name := by
  have openers : (tree :: outer).filter (·.kind.opensNamespace) = [tree] := by
    rw [List.filter_cons_of_pos (by simp [isFile, Kind.opensNamespace]),
      List.filter_eq_nil_iff.2 fun other member => by simp [closed other member]]
  rw [segmentsAround, openedNames, openers]
  simp [isFile, named]

theorem Tree.Likeness.openedNames_eq
    {related : Tree → Tree → Prop}
    (likeness : Tree.Likeness related)
    {inner another : List Tree}
    (ways : List.Forall₂ related inner another) :
    openedNames inner = openedNames another :=
  congrArg List.reverse (likeness.namespaceNames_eq ways)

/-! ## Nodes that neither declare types nor hold locals -/

/-- A node neither declares a type nor may be a scope of locals. -/
def Tree.IsNeutral (tree : Tree) : Prop :=
  tree.kind.declaresType = false ∧ tree.kind.isMemberScope = false ∧ tree.kind ≠ .globalStatement

theorem filter_declaresType_append
    {outer : List Tree}
    (neutral : ∀ tree ∈ outer, tree.IsNeutral)
    (inner : List Tree) :
    (inner ++ outer).filter (·.kind.declaresType) =
      inner.filter (·.kind.declaresType) := by
  have none : outer.filter (·.kind.declaresType) = [] :=
    List.filter_eq_nil_iff.2 fun tree member => by simp [(neutral tree member).1]
  rw [List.filter_append, none, List.append_nil]

theorem enclosingTypes_append
    {outer : List Tree}
    (neutral : ∀ tree ∈ outer, tree.IsNeutral)
    (inner : List Tree) :
    enclosingTypes (inner ++ outer) = enclosingTypes inner := by
  have none : (outer.filterMap fun ancestor =>
      if ancestor.kind.declaresType then (ancestor.childIn? .name).map Tree.text
      else none) = [] :=
    List.filterMap_eq_nil_iff.2 fun tree member => by simp [(neutral tree member).1]
  rw [enclosingTypes, List.filterMap_append, none, List.append_nil]
  rfl

/-- The locals around a site are those of the innermost member among the nodes further in. -/
theorem localNames_append
    {inner outer : List Tree}
    (noStatement : ∀ tree ∈ inner, tree.kind ≠ .globalStatement)
    (neutral : ∀ tree ∈ outer, tree.IsNeutral)
    {address : List Nat}
    (aligned : address.length = (inner ++ outer).length) :
    (localScope? address (inner ++ outer)).map (Option.map fun scope => scope.node.localNames) =
      .ok ((inner.find? (·.kind.isMemberScope)).map Tree.localNames) := by
  induction inner generalizing address with
  | nil =>
      -- Beyond the nodes further in no node is a scope, so the way ends without one.
      rw [List.nil_append] at aligned ⊢
      induction outer generalizing address with
      | nil => cases address <;> rfl
      | cons first outer induction =>
          cases address with
          | nil => cases aligned
          | cons position address =>
              rcases neutral first List.mem_cons_self with ⟨-, noMember, noStatement⟩
              simp only [localScope?, noMember, noStatement, Bool.false_eq_true, if_false]
              exact induction (fun tree member => neutral tree (List.mem_cons_of_mem _ member))
                (Nat.succ.inj aligned)
  | cons first inner induction =>
      cases address with
      | nil => cases aligned
      | cons position address =>
          have here := noStatement first List.mem_cons_self
          rw [List.cons_append, List.find?_cons]
          cases member : first.kind.isMemberScope with
          | true => simp only [localScope?, member, if_true, Except.map, Option.map_some]
          | false =>
              simp only [localScope?, member, here, Bool.false_eq_true, if_false]
              exact induction
                (fun tree member => noStatement tree (List.mem_cons_of_mem _ member))
                (Nat.succ.inj aligned)

/-! ## Nodes beside each other -/

/-- Two sites hold related nodes, and the nodes above are related up to what stands around. -/
structure Site.Beside
    (related : Tree → Tree → Prop)
    (outer others : List Tree)
    (here there : Site) : Prop where
  node : related here.node there.node
  ancestors : ∃ inner another, List.Forall₂ related inner another ∧
    here.ancestors = inner ++ outer ∧ there.ancestors = another ++ others

namespace Tree.Hereditary

variable {related : Tree → Tree → Prop}

theorem below_beside
    (hereditary : Hereditary related)
    {outer others : List Tree}
    {here there : Site}
    (pair : Site.Beside related outer others here there) :
    List.Forall₂ (Site.Beside related outer others) here.below there.below := by
  induction here using Site.induction_children generalizing there with
  | step here induction =>
      rcases pair.ancestors with ⟨inner, another, ways, around, aroundThere⟩
      have children : List.Forall₂ (fun first second => List.Forall₂
          (Site.Beside related outer others) first.below second.below)
          here.children there.children := by
        have placed := (List.forall₂_and_left _ _).2
          ⟨fun _ member => member, Site.placed_paired (hereditary pair.node) here there 0⟩
        refine placed.imp fun first second below => ?_
        rcases below with ⟨member, nodes, up, upThere, -⟩
        refine induction first member ⟨nodes, _, _, .cons pair.node ways, ?_, ?_⟩
        · rw [up, around, List.cons_append]
        · rw [upThere, aroundThere, List.cons_append]
      rw [Site.below_eq, Site.below_eq]
      exact .cons pair (List.rel_flatMap children fun _ _ below => below)

theorem belowFrom_beside
    (hereditary : Hereditary related)
    {first second : List Tree}
    (paired : List.Forall₂ related first second)
    (here there : Site)
    (position other : Nat) :
    List.Forall₂
      (Site.Beside related (here.node :: here.ancestors) (there.node :: there.ancestors))
      (here.belowFrom position first) (there.belowFrom other second) := by
  induction paired generalizing position other with
  | nil => exact .nil
  | @cons tree another first second pair _ induction =>
      rw [Site.belowFrom_cons, Site.belowFrom_cons]
      refine List.rel_append (hereditary.below_beside ?_) (induction _ _)
      exact ⟨pair, [], [], .nil, rfl, rfl⟩

end Tree.Hereditary

/-- Two lists of nodes around others neither declare types nor hold locals, and open the same
namespace together with that of the file. -/
structure SameSurroundings
    (fileNamespace otherNamespace : Option String)
    (outer others : List Tree) : Prop where
  neutral : ∀ tree ∈ outer, tree.IsNeutral
  alsoNeutral : ∀ tree ∈ others, tree.IsNeutral
  segments : segmentsAround fileNamespace outer = segmentsAround otherNamespace others

section Beside

variable
    {related : Tree → Tree → Prop}
    {outer others : List Tree}
    {here there : Site}
    {left right : Declarations}

theorem Site.Beside.enclosingTypes_eq
    (pair : Site.Beside related outer others here there)
    (likeness : Tree.Likeness related)
    (around : SameSurroundings left.fileNamespace right.fileNamespace outer others) :
    enclosingTypes here.ancestors = enclosingTypes there.ancestors := by
  rcases pair.ancestors with ⟨inner, another, ways, up, upThere⟩
  rw [up, upThere, enclosingTypes_append around.neutral,
    enclosingTypes_append around.alsoNeutral]
  exact likeness.enclosingTypes_eq ways

theorem Site.Beside.namespacesAt_eq
    (pair : Site.Beside related outer others here there)
    (likeness : Tree.Likeness related)
    (noFile : ∀ first second, related first second → first.kind ≠ .fileScopedNamespace)
    (around : SameSurroundings left.fileNamespace right.fileNamespace outer others) :
    left.namespacesAt here.ancestors = right.namespacesAt there.ancestors := by
  rcases pair.ancestors with ⟨inner, another, ways, up, upThere⟩
  have plain : ∀ tree ∈ inner, tree.kind ≠ .fileScopedNamespace :=
    Pairs.forall_left noFile ways
  have alsoPlain : ∀ tree ∈ another, tree.kind ≠ .fileScopedNamespace :=
    Pairs.forall_right (fun first second pair => (likeness.reads pair).kind ▸ noFile _ _ pair) ways
  rw [namespacesAt_eq_segmentsAround, namespacesAt_eq_segmentsAround, up, upThere,
    segmentsAround_append _ plain, segmentsAround_append _ alsoPlain, around.segments,
    likeness.openedNames_eq ways]

theorem Site.Beside.valueNames_eq
    (pair : Site.Beside related outer others here there)
    (likeness : Tree.Likeness related)
    (hereditary : Tree.Hereditary related)
    (noStatement : ∀ first second, related first second → first.kind ≠ .globalStatement)
    (around : SameSurroundings left.fileNamespace right.fileNamespace outer others)
    (aligned : here.address.length = here.ancestors.length)
    (alsoAligned : there.address.length = there.ancestors.length) :
    here.valueNames = there.valueNames := by
  rcases pair.ancestors with ⟨inner, another, ways, up, upThere⟩
  have plain : ∀ tree ∈ inner, tree.kind ≠ .globalStatement := Pairs.forall_left noStatement ways
  have alsoPlain : ∀ tree ∈ another, tree.kind ≠ .globalStatement :=
    Pairs.forall_right
      (fun first second pair => (likeness.reads pair).kind ▸ noStatement _ _ pair) ways
  have members : here.memberNames = there.memberNames := by
    rw [Site.memberNames, Site.memberNames, up, upThere,
      filter_declaresType_append around.neutral, filter_declaresType_append around.alsoNeutral]
    exact congrArg NameSet.ofList (likeness.typeValueNamesAround_eq ways)
  have scopes : (inner.find? (·.kind.isMemberScope)).map Tree.localNames =
      (another.find? (·.kind.isMemberScope)).map Tree.localNames :=
    Pairs.optionMap_eq (fun _ _ found => likeness.localNames_eq hereditary found.1) <|
      Pairs.find? (fun _ _ pair => by rw [(likeness.reads pair).kind]) ways
  rw [up] at aligned
  rw [upThere] at alsoAligned
  rw [Site.valueNames_eq_map, Site.valueNames_eq_map, up, upThere,
    localNames_append plain around.neutral aligned,
    localNames_append alsoPlain around.alsoNeutral alsoAligned, members, scopes]

/-- Sites beside each other in the same surroundings are taken in alike. -/
theorem Tree.Likeness.foldl_read_beside
    (likeness : Tree.Likeness related)
    (noFile : ∀ first second, related first second → first.kind ≠ .fileScopedNamespace)
    {first second : List Site}
    (paired : List.Forall₂ (Site.Beside related outer others) first second)
    (tables : left.SameTables right)
    (around : SameSurroundings left.fileNamespace right.fileNamespace outer others) :
    (first.foldl Declarations.read left).SameTables (second.foldl Declarations.read right) ∧
      (first.foldl Declarations.read left).fileNamespace = left.fileNamespace ∧
      (second.foldl Declarations.read right).fileNamespace = right.fileNamespace := by
  induction paired generalizing left right with
  | nil => exact ⟨tables, rfl, rfl⟩
  | @cons here there first second pair _ induction =>
      have kind := noFile _ _ pair.node
      have next := likeness.read_tables pair.node tables
        (pair.namespacesAt_eq likeness noFile around) (pair.enclosingTypes_eq likeness around)
      have same : (left.read here).fileNamespace = left.fileNamespace :=
        Declarations.fileNamespace_read kind
      have alsoSame : (right.read there).fileNamespace = right.fileNamespace :=
        Declarations.fileNamespace_read ((likeness.reads pair.node).kind ▸ kind)
      -- The namespace of the file stays, and with it what surrounds the sites that follow.
      rw [List.foldl_cons, List.foldl_cons, ← same, ← alsoSame]
      exact induction next (by rw [same, alsoSame]; exact around)

/-- Sites beside each other in the same surroundings have the same answers. -/
theorem Site.Beside.symbolAt_eq
    (pair : Site.Beside related outer others here there)
    (likeness : Tree.Likeness related)
    (hereditary : Tree.Hereditary related)
    (plain : ∀ first second, related first second →
      first.kind ≠ .fileScopedNamespace ∧ first.kind ≠ .globalStatement)
    (tables : left.SameTables right)
    (around : SameSurroundings left.fileNamespace right.fileNamespace outer others)
    (aligned : here.address.length = here.ancestors.length)
    (alsoAligned : there.address.length = there.ancestors.length)
    (catalog : Catalog)
    (role : Option Role) :
    (Model.mk catalog left).symbolAt role here = (Model.mk catalog right).symbolAt role there := by
  have values := pair.valueNames_eq likeness hereditary (fun _ _ pair => (plain _ _ pair).2) around
    aligned alsoAligned
  have spaces := pair.namespacesAt_eq likeness (fun _ _ pair => (plain _ _ pair).1) around
  exact likeness.symbolAt_eq (.of_declarations catalog tables) pair.node spaces
    (pair.enclosingTypes_eq likeness around) values role

end Beside

end WinrtLint.Source
