import Mathlib.Data.List.Forall2
import WinrtLint.Proofs.Source.DeclaredTypes

/-!
# What binding reads around a node

Beside the node itself, binding reads the tables of names of the unit, the
namespaces and the types around the node, and the values that a simple name
could stand for there.  Two units may differ in all else: if these agree, names
and calls bind alike (`SameTables.resolve`, `SameTables.accessedMethod`,
`SameTables.simpleMethod`).  The namespace of the file counts only in the
namespaces around a node.
-/

namespace WinrtLint.Source

/-- Two units declare the same names, whatever the namespace of the file. -/
structure Declarations.SameTables (left right : Declarations) : Prop where
  usings : left.usings = right.usings
  staticUsings : left.staticUsings = right.staticUsings
  aliases : left.aliases = right.aliases
  types : left.types = right.types

theorem Declarations.SameTables.refl (declarations : Declarations) :
    declarations.SameTables declarations :=
  ⟨rfl, rfl, rfl, rfl⟩

theorem Declarations.SameTables.of_eq
    {left right : Declarations}
    (same : left = right) :
    left.SameTables right :=
  same ▸ .refl left

theorem Declarations.SameTables.readUsing
    {left right : Declarations}
    (tables : left.SameTables right)
    (directive : Tree) :
    (left.readUsing directive).SameTables (right.readUsing directive) := by
  rcases tables with ⟨usings, staticUsings, aliases, types⟩
  rw [Declarations.readUsing, Declarations.readUsing]
  split
  · exact ⟨usings, staticUsings, aliases, types⟩
  · split
    · exact ⟨usings, staticUsings, by rw [aliases], types⟩
    · split
      · exact ⟨usings, by rw [staticUsings], aliases, types⟩
      · exact ⟨by rw [usings], staticUsings, aliases, types⟩

theorem Declarations.SameTables.eq_of_fileNamespace
    {left right : Declarations}
    (tables : left.SameTables right)
    (same : left.fileNamespace = right.fileNamespace) :
    left = right := by
  cases left
  cases right
  rcases tables with ⟨rfl, rfl, rfl, rfl⟩
  cases same
  rfl

namespace Model

/-- Two models have the same library and the same tables of names. -/
structure SameTables (left right : Model) : Prop
    extends Declarations.SameTables left.declarations right.declarations where
  catalog : left.catalog = right.catalog

namespace SameTables

variable {left right : Model} {here there : List Tree}

theorem of_declarations
    (catalog : Catalog)
    {left right : Declarations}
    (tables : left.SameTables right) :
    SameTables ⟨catalog, left⟩ ⟨catalog, right⟩ :=
  ⟨tables, rfl⟩

theorem lookup (tables : SameTables left right) :
    left.lookup = right.lookup := by
  funext qualified
  rw [Model.lookup, Model.lookup, tables.catalog, tables.types]

theorem lookupUnder (tables : SameTables left right) :
    left.lookupUnder = right.lookupUnder := by
  funext name spaces
  rw [Model.lookupUnder, Model.lookupUnder, tables.lookup]

theorem resolveName
    (tables : SameTables left right)
    (spaces : left.declarations.namespacesAt here = right.declarations.namespacesAt there)
    (name : String) :
    left.resolveName name here = right.resolveName name there := by
  rw [Model.resolveName, Model.resolveName, tables.aliases, tables.usings, tables.lookup,
    tables.lookupUnder, spaces]

theorem resolve
    (tables : SameTables left right)
    (spaces : left.declarations.namespacesAt here = right.declarations.namespacesAt there)
    {text other : String}
    (spelled : DottedName.ofText? text = DottedName.ofText? other) :
    left.resolve text here = right.resolve other there := by
  rw [Model.resolve, Model.resolve, spelled]
  exact congrArg (Option.bind _) (funext fun name => tables.resolveName spaces name)

theorem accessedMethod
    (tables : SameTables left right)
    (spaces : left.declarations.namespacesAt here = right.declarations.namespacesAt there)
    {text other : String}
    (spelled : DottedName.ofText? text = DottedName.ofText? other)
    (method : String) :
    left.accessedMethod text method here =
      right.accessedMethod other method there := by
  rw [Model.accessedMethod, Model.accessedMethod, tables.resolve spaces spelled]

theorem enclosingDeclared
    (tables : SameTables left right)
    (spaces : left.declarations.namespacesAt here = right.declarations.namespacesAt there)
    (types : enclosingTypes here = enclosingTypes there) :
    left.enclosingDeclared here = right.enclosingDeclared there := by
  rw [Model.enclosingDeclared, Model.enclosingDeclared, Declarations.namespaceAt,
    Declarations.namespaceAt, tables.types, spaces, types]

theorem simpleMethod
    (tables : SameTables left right)
    (spaces : left.declarations.namespacesAt here = right.declarations.namespacesAt there)
    (types : enclosingTypes here = enclosingTypes there)
    (method : String) :
    left.simpleMethod method here = right.simpleMethod method there := by
  rw [Model.simpleMethod, Model.simpleMethod, tables.enclosingDeclared spaces types,
    tables.staticUsings, tables.lookup]

end SameTables

end Model

/-! ## Nodes that lie around a site without opening anything -/

theorem namespacesAt_cons_of_not
    {ancestor : Tree}
    (closed : ancestor.kind.opensNamespace = false)
    (declarations : Declarations)
    (ancestors : List Tree) :
    declarations.namespacesAt (ancestor :: ancestors) = declarations.namespacesAt ancestors := by
  rw [Declarations.namespacesAt, enclosingNamespaces, List.filter_cons_of_neg (by simp [closed])]
  rfl

/-! ## Trees that declare nothing for the unit -/

theorem Declarations.fileNamespace_read
    {site : Site}
    (other : site.node.kind ≠ .fileScopedNamespace)
    {declarations : Declarations} :
    (declarations.read site).fileNamespace = declarations.fileNamespace := by
  rw [Declarations.read]
  split
  · exact (declarations.types_and_fileNamespace_readUsing site.node).2
  · exact absurd ‹_› other
  · rw [Declarations.readType]
    split <;> rfl
  · rfl

theorem Declarations.fileNamespace_foldl_read
    {sites : List Site}
    (others : ∀ site ∈ sites, site.node.kind ≠ .fileScopedNamespace)
    (declarations : Declarations) :
    (sites.foldl read declarations).fileNamespace = declarations.fileNamespace := by
  induction sites generalizing declarations with
  | nil => rfl
  | cons site rest induction =>
      rw [List.foldl_cons,
        induction fun other member => others other (List.mem_cons_of_mem _ member)]
      exact fileNamespace_read (others site List.mem_cons_self)

/-- A node that is not taken in as a declaration of the unit. -/
def Tree.IsInert (node : Tree) : Prop :=
  node.kind ≠ .usingDirective ∧ node.kind ≠ .fileScopedNamespace ∧ node.kind.declaresType = false

instance (node : Tree) : Decidable node.IsInert :=
  inferInstanceAs (Decidable (_ ∧ _))

theorem Declarations.read_of_isInert
    {site : Site}
    (inert : site.node.IsInert)
    (declarations : Declarations) :
    declarations.read site = declarations := by
  rcases inert with ⟨noUsing, noSpace, noType⟩
  rw [Declarations.read]
  split
  · exact absurd ‹_› noUsing
  · exact absurd ‹_› noSpace
  · rename_i kind
    rw [kind] at noType
    cases noType
  · rfl

theorem Declarations.foldl_read_of_isInert
    {sites : List Site}
    (inert : ∀ site ∈ sites, site.node.IsInert)
    (declarations : Declarations) :
    sites.foldl read declarations = declarations := by
  induction sites with
  | nil => rfl
  | cons site rest induction =>
      rw [List.foldl_cons, read_of_isInert (inert site List.mem_cons_self)]
      exact induction fun other member => inert other (List.mem_cons_of_mem _ member)

/-- Nothing in a tree is taken in as a declaration of the unit. -/
def Tree.DeclaresNothing (tree : Tree) : Prop :=
  ∀ node ∈ tree.preorder, node.IsInert

instance (tree : Tree) : Decidable tree.DeclaresNothing :=
  inferInstanceAs (Decidable (∀ node ∈ tree.preorder, node.IsInert))

theorem Tree.DeclaresNothing.foldl_read_below
    {site : Site}
    (nothing : site.node.DeclaresNothing)
    (declarations : Declarations) :
    site.below.foldl Declarations.read declarations =
      declarations := by
  refine Declarations.foldl_read_of_isInert (fun other inside => nothing other.node ?_) declarations
  rw [← Site.map_node_below]
  exact List.mem_map_of_mem inside

end WinrtLint.Source
