import WinrtLint.Proofs.Source.GlobalNames
import WinrtLint.Proofs.Source.Nesting

/-!
# The ways to write a namespace

A body can be put into a namespace by one block, by blocks inside blocks that
share the segments of the name among them, by a file-scoped declaration around
it, or by a file-scoped declaration in front of it (`NamespaceForm`).  Each way
leads to the same segments of the name around the body: either blocks open them,
or the namespace of the file is read before the body is
(`NamespaceForm.Opens.settles`).  So all ways bind alike
(`Model.namespace_forms_bind_alike`).
-/

namespace WinrtLint.Source

/-! ## Layers around a body -/

/-- A node that is put around trees, with what stands in front of them and behind. -/
structure Layer where
  label : Label
  before : List Tree
  after : List Tree

namespace Layer

/-- A layer around trees. -/
def wrap (layer : Layer) (trees : List Tree) : Tree :=
  .node layer.label (layer.before ++ (trees ++ layer.after))

/-- The namespace that a layer names in front of the trees. -/
def name? (layer : Layer) : Option String :=
  (layer.before.find? fun child => child.label.field = some .name).bind fun name =>
    DottedName.ofText? name.text

/-- A layer itself declares nothing beside the trees in it. -/
structure Bare (layer : Layer) : Prop where
  before : ∀ tree ∈ layer.before, tree.DeclaresNothing
  after : ∀ tree ∈ layer.after, tree.DeclaresNothing

instance (layer : Layer) : Decidable layer.Bare :=
  decidable_of_iff ((∀ tree ∈ layer.before, tree.DeclaresNothing) ∧
      ∀ tree ∈ layer.after, tree.DeclaresNothing)
    ⟨fun ⟨before, after⟩ => ⟨before, after⟩, fun bare => ⟨bare.before, bare.after⟩⟩

/-- Layers around trees, the outermost first. -/
def fill : List Layer → List Tree → List Tree
  | [], body => body
  | layer :: rest, body => [layer.wrap (fill rest body)]

/-- The site of the innermost layer around a body and the position of the body in it, where the
outermost layer stands at a position below a site. -/
def innermost : List Layer → Site → Nat → List Tree → Site × Nat
  | [], top, position, _ => (top, position)
  | layer :: rest, top, position, body =>
      innermost rest
        ⟨layer.wrap (fill rest body), position :: top.address, top.node :: top.ancestors⟩
        layer.before.length body

/-- Block namespaces and the lists of their members open the segments of a name. -/
inductive BlocksOpen : List Layer → List String → Prop where
  | nil : BlocksOpen [] []
  | block
      {layer : Layer}
      {rest : List Layer}
      {name : String}
      {segments : List String}
      (isBlock : layer.label.kind = .namespaceBlock)
      (bare : layer.Bare)
      (named : layer.name? = some name)
      (inside : BlocksOpen rest segments) :
      BlocksOpen (layer :: rest) (DottedName.segments name ++ segments)
  | list
      {layer : Layer}
      {rest : List Layer}
      {kind : String}
      {segments : List String}
      (isList : layer.label.kind = .other kind)
      (bare : layer.Bare)
      (inside : BlocksOpen rest segments) :
      BlocksOpen (layer :: rest) segments

end Layer

/-- The ways to put a body into a namespace. -/
inductive NamespaceForm where
  /-- Blocks, and the lists in them, the outermost first. -/
  | blocks (layers : List Layer)
  /-- A file-scoped declaration that holds the body. -/
  | around (layer : Layer)
  /-- A file-scoped declaration that the body follows. -/
  | above (declaration : Tree)

namespace NamespaceForm

/-- What stands in a unit for the body. -/
def contents (form : NamespaceForm) (body : List Tree) : List Tree :=
  match form with
  | .blocks layers => Layer.fill layers body
  | .around layer => [layer.wrap body]
  | .above declaration => declaration :: body

/-- The unit with a body in a namespace, behind directives. -/
def unit (form : NamespaceForm) (label : Label) (directives body : List Tree) :
    Tree :=
  .node label (directives ++ form.contents body)

/-- The site of the unit itself. -/
def top (form : NamespaceForm) (label : Label) (directives body : List Tree) :
    Site :=
  ⟨form.unit label directives body, [], []⟩

/-- The site of the node that holds the body, and the position of the body in it. -/
def holder
    (form : NamespaceForm)
    (label : Label)
    (directives body : List Tree) :
    Site × Nat :=
  match form with
  | .blocks layers =>
      Layer.innermost layers (form.top label directives body) directives.length body
  | .around layer =>
      Layer.innermost [layer] (form.top label directives body) directives.length body
  | .above _ => (form.top label directives body, directives.length + 1)

/-- The nodes around the body. -/
def bodyAncestors
    (form : NamespaceForm)
    (label : Label)
    (directives body : List Tree) :
    List Tree :=
  (form.holder label directives body).1.node :: (form.holder label directives body).1.ancestors

/-- The sites of the body. -/
def bodySites
    (form : NamespaceForm)
    (label : Label)
    (directives body : List Tree) :
    List Site :=
  (form.holder label directives body).1.belowFrom (form.holder label directives body).2 body

/-- A way to write a namespace opens the segments of its name. -/
inductive Opens : NamespaceForm → List String → Prop where
  | blocks
      {layers : List Layer}
      {segments : List String}
      (opens : Layer.BlocksOpen layers segments) :
      Opens (.blocks layers) segments
  | around
      {layer : Layer}
      {name : String}
      (isFile : layer.label.kind = .fileScopedNamespace)
      (bare : layer.Bare)
      (named : layer.name? = some name) :
      Opens (.around layer) (DottedName.segments name)
  | above
      {declaration : Tree}
      {name : String}
      (isFile : declaration.kind = .fileScopedNamespace)
      (bare : ∀ child ∈ declaration.children, child.DeclaresNothing)
      (named : declaration.namespaceName? = some name) :
      Opens (.above declaration) (DottedName.segments name)

end NamespaceForm

/-! ## Reading layers -/

/-- Trees that declare nothing are passed over. -/
theorem Site.foldl_read_belowFrom
    {trees : List Tree}
    (nothing : ∀ tree ∈ trees, tree.DeclaresNothing)
    (site : Site)
    (position : Nat)
    (declarations : Declarations) :
    (site.belowFrom position trees).foldl Declarations.read declarations = declarations := by
  induction trees generalizing position with
  | nil => rfl
  | cons tree trees induction =>
      have here : Tree.DeclaresNothing tree := nothing tree List.mem_cons_self
      rw [Site.belowFrom_cons, List.foldl_append, Tree.DeclaresNothing.foldl_read_below here]
      exact induction (fun other member => nothing other (List.mem_cons_of_mem _ member)) _

/-- A file-scoped declaration sets the namespace of the file. -/
theorem Declarations.read_of_fileScoped
    {site : Site}
    {name : String}
    (isFile : site.node.kind = .fileScopedNamespace)
    (named : site.node.namespaceName? = some name)
    (declarations : Declarations) :
    declarations.read site = { declarations with fileNamespace := some name } := by
  rcases Option.bind_eq_some_iff.1 named with ⟨part, found, spelled⟩
  rw [Declarations.read, isFile]
  dsimp only
  rw [found]
  dsimp only
  rw [spelled]

namespace Layer

variable {layer : Layer} {layers : List Layer} {segments : List String}

theorem namespaceName?_wrap
    {name : String}
    (named : layer.name? = some name)
    (trees : List Tree) :
    (layer.wrap trees).namespaceName? = some name := by
  rcases Option.bind_eq_some_iff.1 named with ⟨part, found, spelled⟩
  have first : (layer.wrap trees).childIn? .name = some part := by
    rw [Tree.childIn?, wrap, Tree.children, List.find?_append, found, Option.some_or]
  rw [Tree.namespaceName?, first, Option.bind_some, spelled]

theorem foldl_read_wrap
    (bare : layer.Bare)
    (trees : List Tree)
    (top : Site)
    (position : Nat)
    (declarations : Declarations) :
    (top.belowFrom position [layer.wrap trees]).foldl Declarations.read declarations =
      (Site.belowFrom ⟨layer.wrap trees, position :: top.address, top.node :: top.ancestors⟩
          layer.before.length trees).foldl Declarations.read
        (declarations.read
          ⟨layer.wrap trees, position :: top.address, top.node :: top.ancestors⟩) := by
  have parts : (layer.wrap trees).children = layer.before ++ (trees ++ layer.after) := rfl
  rw [Site.belowFrom_cons, Site.below_eq_belowFrom, parts, Site.belowFrom_append,
    Site.belowFrom_append, Nat.zero_add]
  simp only [List.cons_append, List.foldl_cons, List.foldl_append]
  rw [Site.foldl_read_belowFrom bare.before, Site.foldl_read_belowFrom bare.after]
  rfl

theorem BlocksOpen.foldl_read
    (opens : BlocksOpen layers segments)
    (body : List Tree)
    (top : Site)
    (position : Nat)
    (declarations : Declarations) :
    (top.belowFrom position (fill layers body)).foldl Declarations.read declarations =
      ((innermost layers top position body).1.belowFrom
        (innermost layers top position body).2 body).foldl Declarations.read declarations := by
  -- Neither a block nor a list of members is taken in itself: what is read is further in.
  induction opens generalizing top position with
  | nil => rfl
  | @block layer rest name segments isBlock bare named inside induction =>
      have inert : (layer.wrap (fill rest body)).IsInert := by
        refine ⟨?_, ?_, ?_⟩ <;> simp [Tree.kind, Tree.label, wrap, isBlock, Kind.declaresType]
      rw [fill, foldl_read_wrap bare, Declarations.read_of_isInert inert, induction]
      rfl
  | @list layer rest kind segments isList bare inside induction =>
      have inert : (layer.wrap (fill rest body)).IsInert := by
        refine ⟨?_, ?_, ?_⟩ <;> simp [Tree.kind, Tree.label, wrap, isList, Kind.declaresType]
      rw [fill, foldl_read_wrap bare, Declarations.read_of_isInert inert, induction]
      rfl

/-- Blocks extend the namespace around them by the segments that they open. -/
theorem BlocksOpen.segmentsAround_innermost
    (opens : BlocksOpen layers segments)
    (body : List Tree)
    (top : Site)
    (position : Nat)
    (fileNamespace : Option String) :
    segmentsAround fileNamespace ((innermost layers top position body).1.node ::
        (innermost layers top position body).1.ancestors) =
      segmentsAround fileNamespace (top.node :: top.ancestors) ++ segments := by
  induction opens generalizing top position with
  | nil => exact (List.append_nil _).symm
  | @block layer rest name segments isBlock bare named inside induction =>
      have kind : (layer.wrap (fill rest body)).kind = .namespaceBlock := isBlock
      rw [innermost, induction,
        segmentsAround_cons_of_block kind (namespaceName?_wrap named _), List.append_assoc]
  | @list layer rest kind segments isList bare inside induction =>
      have closed : (layer.wrap (fill rest body)).kind.opensNamespace = false := by
        rw [show (layer.wrap (fill rest body)).kind = .other kind from isList]
        rfl
      rw [innermost, induction, segmentsAround_cons_of_not closed]

theorem BlocksOpen.isNeutral
    (opens : BlocksOpen layers segments)
    (body : List Tree)
    (top : Site)
    (position : Nat)
    (neutral : ∀ tree ∈ top.node :: top.ancestors, tree.IsNeutral) :
    ∀ tree ∈ (innermost layers top position body).1.node ::
      (innermost layers top position body).1.ancestors, tree.IsNeutral := by
  induction opens generalizing top position with
  | nil => exact neutral
  | @block layer rest name segments isBlock bare named inside induction =>
      have here : (layer.wrap (fill rest body)).IsNeutral := by
        refine ⟨?_, ?_, ?_⟩ <;>
          simp [Tree.kind, Tree.label, wrap, isBlock, Kind.declaresType, Kind.isMemberScope]
      exact induction _ _ (List.forall_mem_cons.2 ⟨here, neutral⟩)
  | @list layer rest kind segments isList bare inside induction =>
      have here : (layer.wrap (fill rest body)).IsNeutral := by
        refine ⟨?_, ?_, ?_⟩ <;>
          simp [Tree.kind, Tree.label, wrap, isList, Kind.declaresType, Kind.isMemberScope]
      exact induction _ _ (List.forall_mem_cons.2 ⟨here, neutral⟩)

/-- The sites of the body are among those of the layers around it. -/
theorem isInfix_innermost
    (layers : List Layer)
    (body : List Tree)
    (top : Site)
    (position : Nat) :
    (innermost layers top position body).1.belowFrom (innermost layers top position body).2 body
      <:+: top.belowFrom position (fill layers body) := by
  induction layers generalizing top position with
  | nil => exact List.infix_refl _
  | cons layer rest induction =>
      have parts : (layer.wrap (fill rest body)).children =
          layer.before ++ (fill rest body ++ layer.after) := rfl
      have deeper := induction
        ⟨layer.wrap (fill rest body), position :: top.address, top.node :: top.ancestors⟩
        layer.before.length
      rw [fill, Site.belowFrom_cons, Site.below_eq_belowFrom, parts, Site.belowFrom_append,
        Site.belowFrom_append, Nat.zero_add]
      refine deeper.trans ?_
      exact ((List.infix_append' _ _ _).trans (List.suffix_cons _ _).isInfix).trans
        (List.prefix_append _ _).isInfix

end Layer

/-! ## Reading forms -/

namespace NamespaceForm

variable {form : NamespaceForm} {segments : List String} {label : Label}

/-- What the directives in front of a namespace declare. -/
def readDirectives
    (form : NamespaceForm)
    (label : Label)
    (directives body : List Tree) :
    Declarations :=
  ((form.top label directives body).belowFrom 0 directives).foldl Declarations.read {}

/-- What binding a body depends on: the namespace of the file by the time when the body is read,
and the nodes around the body. -/
structure Settles
    (form : NamespaceForm)
    (label : Label)
    (directives body : List Tree)
    (segments : List String)
    (fileNamespace : Option String) : Prop where
  reads : Declarations.ofTree (form.unit label directives body) =
    (form.bodySites label directives body).foldl Declarations.read
      { form.readDirectives label directives body with fileNamespace }
  segments : segmentsAround fileNamespace (form.bodyAncestors label directives body) = segments
  neutral : ∀ tree ∈ form.bodyAncestors label directives body, tree.IsNeutral

theorem Settles.sameSurroundings
    {version : NamespaceForm}
    {other : Label}
    {directives others body another : List Tree}
    {fileNamespace otherNamespace : Option String}
    (settled : form.Settles label directives body segments fileNamespace)
    (alsoSettled : version.Settles other others another segments otherNamespace) :
    SameSurroundings fileNamespace otherNamespace (form.bodyAncestors label directives body)
      (version.bodyAncestors other others another) :=
  ⟨settled.neutral, alsoSettled.neutral, settled.segments.trans alsoSettled.segments.symm⟩

theorem sites_unit
    (form : NamespaceForm)
    (label : Label)
    (directives body : List Tree) :
    (form.unit label directives body).sites = form.top label directives body ::
      ((form.top label directives body).belowFrom 0 directives ++
        (form.top label directives body).belowFrom directives.length (form.contents body)) := by
  have parts : (form.top label directives body).node.children =
      directives ++ form.contents body := rfl
  change (form.top label directives body).below = _
  rw [Site.below_eq_belowFrom, parts, Site.belowFrom_append, Nat.zero_add]

theorem isInfix_bodySites
    (form : NamespaceForm)
    (label : Label)
    (directives body : List Tree) :
    form.bodySites label directives body <:+: (form.unit label directives body).sites := by
  have below : form.bodySites label directives body <:+:
      (form.top label directives body).belowFrom directives.length (form.contents body) := by
    cases form with
    | blocks layers => exact Layer.isInfix_innermost layers body _ _
    | around layer => exact Layer.isInfix_innermost [layer] body _ _
    | above declaration => exact (List.suffix_append _ _).isInfix
  rw [sites_unit]
  exact (below.trans (List.suffix_append _ _).isInfix).trans (List.suffix_cons _ _).isInfix

theorem ofTree_unit
    (isUnit : label.kind = .compilationUnit)
    (form : NamespaceForm)
    (directives body : List Tree) :
    Declarations.ofTree (form.unit label directives body) =
      ((form.top label directives body).belowFrom directives.length
        (form.contents body)).foldl Declarations.read
          (form.readDirectives label directives body) := by
  have kind : (form.top label directives body).node.kind = .compilationUnit := isUnit
  have inert : (form.top label directives body).node.IsInert := by
    refine ⟨?_, ?_, ?_⟩ <;> simp [kind, Kind.declaresType]
  rw [Declarations.ofTree, sites_unit, List.foldl_cons, Declarations.read_of_isInert inert,
    List.foldl_append]
  rfl

/-- No file-scoped declaration stands in the directives. -/
theorem fileNamespace_readDirectives
    {directives : List Tree}
    (noFile : ∀ tree ∈ directives, ∀ node ∈ tree.preorder, node.kind ≠ .fileScopedNamespace)
    (body : List Tree) :
    (form.readDirectives label directives body).fileNamespace = none := by
  rw [readDirectives]
  refine Declarations.fileNamespace_foldl_read (fun site inside => ?_) {}
  rcases Site.mem_preorder_of_mem_belowFrom inside with ⟨tree, among, listed⟩
  exact noFile tree among site.node listed

theorem closed_top
    (isUnit : label.kind = .compilationUnit)
    (form : NamespaceForm)
    (directives body : List Tree) :
    ∀ other ∈ [form.unit label directives body], other.kind.opensNamespace = false := by
  refine List.forall_mem_singleton.2 ?_
  rw [show (form.unit label directives body).kind = .compilationUnit from isUnit]
  rfl

theorem neutral_top
    (isUnit : label.kind = .compilationUnit)
    (form : NamespaceForm)
    (directives body : List Tree) :
    ∀ tree ∈ [form.unit label directives body], tree.IsNeutral := by
  have kind : (form.unit label directives body).kind = .compilationUnit := isUnit
  refine List.forall_mem_singleton.2 ⟨?_, ?_, ?_⟩ <;>
    simp [kind, Kind.declaresType, Kind.isMemberScope]

/-- Blocks leave the namespace of the file alone, and open the segments themselves. -/
theorem settles_blocks
    {layers : List Layer}
    (opens : Layer.BlocksOpen layers segments)
    (isUnit : label.kind = .compilationUnit)
    {directives : List Tree}
    (noFile : ∀ tree ∈ directives, ∀ node ∈ tree.preorder, node.kind ≠ .fileScopedNamespace)
    (body : List Tree) :
    (NamespaceForm.blocks layers).Settles label directives body segments none where
  reads := by
    have same : ∀ declarations : Declarations, declarations.fileNamespace = none →
        { declarations with fileNamespace := none } = declarations := by
      rintro ⟨usings, staticUsings, aliases, fileNamespace, types⟩ none
      cases none
      rfl
    rw [ofTree_unit isUnit, same _ (fileNamespace_readDirectives noFile body)]
    exact opens.foldl_read body _ _ _
  segments := by
    have unnamed := segmentsAround_of_closed none
      (closed_top isUnit (.blocks layers) directives body)
    have around := opens.segmentsAround_innermost body
      ((NamespaceForm.blocks layers).top label directives body) directives.length none
    exact around.trans (congrArg (· ++ segments) unnamed)
  neutral := opens.isNeutral body _ _ (neutral_top isUnit _ directives body)

/-- A file-scoped declaration sets the namespace of the file and opens it around its body. -/
theorem settles_around
    {layer : Layer}
    {name : String}
    (isFile : layer.label.kind = .fileScopedNamespace)
    (bare : layer.Bare)
    (named : layer.name? = some name)
    (isUnit : label.kind = .compilationUnit)
    (directives body : List Tree) :
    (NamespaceForm.around layer).Settles label directives body (DottedName.segments name)
      (some name) := by
  have isFile : (layer.wrap body).kind = .fileScopedNamespace := isFile
  have named := Layer.namespaceName?_wrap named body
  have neutral : (layer.wrap body).IsNeutral := by
    refine ⟨?_, ?_, ?_⟩ <;> simp [isFile, Kind.declaresType, Kind.isMemberScope]
  refine ⟨?_, ?_, List.forall_mem_cons.2 ⟨neutral, neutral_top isUnit _ directives body⟩⟩
  · rw [ofTree_unit isUnit, contents, Layer.foldl_read_wrap bare,
      Declarations.read_of_fileScoped isFile named]
    rfl
  · exact segmentsAround_cons_of_fileScoped isFile named _ (closed_top isUnit _ directives body)

/-- A file-scoped declaration sets the namespace of the file for the body that follows it. -/
theorem settles_above
    {declaration : Tree}
    {name : String}
    (isFile : declaration.kind = .fileScopedNamespace)
    (bare : ∀ child ∈ declaration.children, child.DeclaresNothing)
    (named : declaration.namespaceName? = some name)
    (isUnit : label.kind = .compilationUnit)
    (directives body : List Tree) :
    (NamespaceForm.above declaration).Settles label directives body (DottedName.segments name)
      (some name) := by
  refine ⟨?_, ?_, neutral_top isUnit _ directives body⟩
  · rw [ofTree_unit isUnit, contents, Site.belowFrom_cons, List.foldl_append,
      Site.below_eq_belowFrom, List.foldl_cons, Declarations.read_of_fileScoped isFile named,
      Site.foldl_read_belowFrom bare]
    rfl
  · have around := segmentsAround_of_closed (some name)
      (closed_top isUnit (.above declaration) directives body)
    exact around.trans (List.flatMap_singleton _ _)

/-- Every way to write a namespace leads to the same segments around the body. -/
theorem Opens.settles
    (opens : form.Opens segments)
    (isUnit : label.kind = .compilationUnit)
    {directives : List Tree}
    (noFile : ∀ tree ∈ directives, ∀ node ∈ tree.preorder, node.kind ≠ .fileScopedNamespace)
    (body : List Tree) :
    ∃ fileNamespace, form.Settles label directives body segments fileNamespace := by
  cases opens with
  | blocks opens => exact ⟨none, settles_blocks opens isUnit noFile body⟩
  | around isFile bare named => exact ⟨_, settles_around isFile bare named isUnit directives body⟩
  | above isFile bare named => exact ⟨_, settles_above isFile bare named isUnit directives body⟩

/-- The nodes of a body that is put into a namespace in two ways are taken in alike. -/
theorem foldl_read_bodySites
    {version : NamespaceForm}
    {other : Label}
    {directives others body another : List Tree}
    {fileNamespace otherNamespace : Option String}
    (settled : form.Settles label directives body segments fileNamespace)
    (alsoSettled : version.Settles other others another segments otherNamespace)
    (isUnit : label.kind = .compilationUnit)
    (alsoUnit : other.kind = .compilationUnit)
    (sameDirectives : List.Forall₂ (Tree.SameWithin (· ≠ .fileScopedNamespace)) directives others)
    {admitted : Kind → Prop}
    (noFile : ∀ kind, admitted kind → kind ≠ .fileScopedNamespace)
    (sameBody : List.Forall₂ (Tree.SameWithin admitted) body another) :
    (Declarations.ofTree (form.unit label directives body)).SameTables
        (Declarations.ofTree (version.unit other others another)) ∧
      (Declarations.ofTree (form.unit label directives body)).fileNamespace = fileNamespace ∧
      (Declarations.ofTree (version.unit other others another)).fileNamespace = otherNamespace := by
  have unnamed : SameSurroundings none none [form.unit label directives body]
      [version.unit other others another] :=
    ⟨neutral_top isUnit form directives body, neutral_top alsoUnit version others another, by
      rw [segmentsAround_of_closed none (closed_top isUnit form directives body),
        segmentsAround_of_closed none (closed_top alsoUnit version others another)]⟩
  have inFront := Tree.hereditary_sameWithin.belowFrom_beside sameDirectives
    (form.top label directives body) (version.top other others another) 0 0
  have read := Tree.likeness_sameWithin.foldl_read_beside (fun _ _ pair => pair.kind) inFront
    (Declarations.SameTables.refl {}) unnamed
  have tables : ({ form.readDirectives label directives body with fileNamespace } :
      Declarations).SameTables
        { version.readDirectives other others another with fileNamespace := otherNamespace } :=
    ⟨read.1.usings, read.1.staticUsings, read.1.aliases, read.1.types⟩
  have around := settled.sameSurroundings alsoSettled
  -- The body is read with the namespace of the file that its own form has set.
  rw [settled.reads, alsoSettled.reads]
  exact Tree.likeness_sameWithin.foldl_read_beside (fun _ _ pair => noFile _ pair.kind)
    (Tree.hereditary_sameWithin.belowFrom_beside sameBody _ _ _ _) tables around

end NamespaceForm

/--
All ways of writing a namespace bind alike: where two units put bodies that are
written alike into a namespace of the same segments, behind directives that are
written alike, every question about a node of the body has the same answer in
both units.
-/
theorem Model.namespace_forms_bind_alike
    (catalog : Catalog)
    {label other : Label}
    (isUnit : label.kind = .compilationUnit)
    (alsoUnit : other.kind = .compilationUnit)
    {directives others body another : List Tree}
    (sameDirectives : List.Forall₂ (Tree.Pointwise Tree.SameSource) directives others)
    (noFile : ∀ tree ∈ directives, ∀ node ∈ tree.preorder, node.kind ≠ .fileScopedNamespace)
    (sameBody : List.Forall₂ (Tree.Pointwise Tree.SameSource) body another)
    (plain : ∀ tree ∈ body, ∀ node ∈ tree.preorder,
      node.kind ≠ .fileScopedNamespace ∧ node.kind ≠ .globalStatement)
    {form version : NamespaceForm}
    {segments : List String}
    (opens : form.Opens segments)
    (alsoOpens : version.Opens segments) :
    form.bodySites label directives body <:+: (form.unit label directives body).sites ∧
    version.bodySites other others another <:+: (version.unit other others another).sites ∧
    List.Forall₂ (fun here there => Tree.Pointwise Tree.SameSource here.node there.node ∧
      ∀ role,
        (Model.ofTree catalog (form.unit label directives body)).symbolAt role here =
          (Model.ofTree catalog (version.unit other others another)).symbolAt role there)
      (form.bodySites label directives body) (version.bodySites other others another) := by
  have inside := form.isInfix_bodySites label directives body
  have alsoInside := version.isInfix_bodySites other others another
  refine ⟨inside, alsoInside, ?_⟩
  have directivesWithin :
      List.Forall₂ (Tree.SameWithin (· ≠ .fileScopedNamespace)) directives others :=
    Tree.sameWithin_of_forall sameDirectives noFile
  have bodyWithin : List.Forall₂ (Tree.SameWithin fun kind =>
      kind ≠ .fileScopedNamespace ∧ kind ≠ .globalStatement) body another :=
    Tree.sameWithin_of_forall sameBody plain
  have alsoNoFile : ∀ tree ∈ others, ∀ node ∈ tree.preorder, node.kind ≠ .fileScopedNamespace :=
    Pairs.forall_right (fun _ _ pair => pair.other) directivesWithin
  rcases opens.settles isUnit noFile body with ⟨fileNamespace, settled⟩
  rcases alsoOpens.settles alsoUnit alsoNoFile another with ⟨otherNamespace, alsoSettled⟩
  rcases NamespaceForm.foldl_read_bodySites settled alsoSettled isUnit alsoUnit directivesWithin
    (fun _ admitted => admitted.1) bodyWithin with ⟨tables, named, alsoNamed⟩
  have around := settled.sameSurroundings alsoSettled
  rw [← named, ← alsoNamed] at around
  have paired : List.Forall₂ (Site.Beside _ (form.bodyAncestors label directives body)
      (version.bodyAncestors other others another)) (form.bodySites label directives body)
      (version.bodySites other others another) :=
    Tree.hereditary_sameWithin.belowFrom_beside bodyWithin _ _ _ _
  refine (Pairs.with_members paired).imp fun here there pair => ?_
  rcases pair with ⟨member, alsoMember, pair⟩
  refine ⟨pair.node.1, fun role => ?_⟩
  exact pair.symbolAt_eq Tree.likeness_sameWithin Tree.hereditary_sameWithin
    (fun _ _ nodes => nodes.kind) tables around
    (Tree.length_address_of_mem_sites (inside.subset member))
    (Tree.length_address_of_mem_sites (alsoInside.subset alsoMember)) catalog role

namespace Sample

/-- The name of a namespace in front of a body. -/
def naming (kind : Kind) (name : String) : Layer :=
  ⟨{ kind },
    [word (.other "namespace") none "namespace", word .qualifiedName (some .name) name], []⟩

/-- The list of the members of a block. -/
def memberList : Layer :=
  ⟨{ kind := .other "declaration_list", field := some .body },
    [word (.other "\x7b") none "\x7b"], [word (.other "\x7d") none "\x7d"]⟩

/-- One block with the whole name. -/
def oneBlock : NamespaceForm :=
  .blocks [naming .namespaceBlock "Sample.Inner", memberList]

/-- A block within another, each with a part of the name. -/
def twoBlocks : NamespaceForm :=
  .blocks [naming .namespaceBlock "Sample", memberList, naming .namespaceBlock "Inner", memberList]

/-- The namespace of the file, with the body among its children. -/
def fileAround : NamespaceForm :=
  .around (naming .fileScopedNamespace "Sample.Inner")

/-- The namespace of the file, in front of the body. -/
def fileAbove : NamespaceForm :=
  .above ((naming .fileScopedNamespace "Sample . Inner").wrap [])

theorem opens_inner :
    oneBlock.Opens ["Sample", "Inner"] ∧ twoBlocks.Opens ["Sample", "Inner"] ∧
      fileAround.Opens ["Sample", "Inner"] ∧ fileAbove.Opens ["Sample", "Inner"] := by
  have whole : DottedName.segments "Sample.Inner" = ["Sample", "Inner"] := by decide +kernel
  have outer : DottedName.segments "Sample" = ["Sample"] := by decide +kernel
  have inner : DottedName.segments "Inner" = ["Inner"] := by decide +kernel
  have block : ∀ (name : String) {layers : List Layer} {segments : List String},
      Layer.BlocksOpen layers segments → (naming .namespaceBlock name).Bare →
      (naming .namespaceBlock name).name? = some name →
      Layer.BlocksOpen (naming .namespaceBlock name :: memberList :: layers)
        (DottedName.segments name ++ segments) :=
    fun name _ _ inside bare named => .block rfl bare named (.list rfl (by decide +kernel) inside)
  refine ⟨?oneBlock, ?twoBlocks, ?fileAround, ?fileAbove⟩
  case oneBlock =>
    have opens := block "Sample.Inner" .nil (by decide +kernel) (by decide +kernel)
    rw [whole] at opens
    exact .blocks opens
  case twoBlocks =>
    have deeper := block "Inner" .nil (by decide +kernel) (by decide +kernel)
    have opens := block "Sample" deeper (by decide +kernel) (by decide +kernel)
    rw [outer, inner] at opens
    exact .blocks opens
  case fileAround =>
    rw [← whole]
    exact .around rfl (by decide +kernel) (by decide +kernel)
  case fileAbove =>
    rw [← whole]
    exact .above rfl (by decide +kernel) (by decide +kernel)

/-- A class that calls a method of a listed type of the namespace around. -/
def innerBody : List Tree :=
  [classOf "Owner" [methodOf "Run" [] [callThrough "Counter" "Read"]]]

/-- The class in a namespace written in one of the ways. -/
def innerUnit (form : NamespaceForm) : Tree :=
  form.unit { kind := .compilationUnit } [opening "Other"] innerBody

/-- Whether the nodes of the class have the same answers in two of the ways. -/
def BoundAlike (form version : NamespaceForm) : Prop :=
  List.Forall₂ (fun here there => Tree.Pointwise Tree.SameSource here.node there.node ∧
    ∀ role, (Model.ofTree sampleScanner.catalog (innerUnit form)).symbolAt role here =
      (Model.ofTree sampleScanner.catalog (innerUnit version)).symbolAt role there)
    (form.bodySites { kind := .compilationUnit } [opening "Other"] innerBody)
    (version.bodySites { kind := .compilationUnit } [opening "Other"] innerBody)

end Sample

open Sample

/-- The call binds to the listed type of the outer namespace, in each of the ways. -/
theorem Model.namespace_forms_bind_alike_inner :
    BoundAlike oneBlock twoBlocks ∧ BoundAlike twoBlocks fileAround ∧
      BoundAlike fileAround fileAbove ∧
      boundCalls (innerUnit oneBlock) =
        [some (.method ⟨"Read", some { space := "Sample", name := "Counter" }, true⟩)] := by
  have same : ∀ trees : List Tree,
      List.Forall₂ (Tree.Pointwise Tree.SameSource) trees trees :=
    fun trees => List.forall₂_same.2 fun tree _ => Tree.sameSource_refl tree
  have alike : ∀ {form version : NamespaceForm}, form.Opens ["Sample", "Inner"] →
      version.Opens ["Sample", "Inner"] → BoundAlike form version :=
    fun opens alsoOpens => (namespace_forms_bind_alike sampleScanner.catalog rfl rfl (same _)
      (by decide +kernel) (same _) (by decide +kernel) opens alsoOpens).2.2
  rcases opens_inner with ⟨one, two, around, above⟩
  exact ⟨alike one two, alike two around, alike around above, by decide +kernel⟩

end WinrtLint.Source
