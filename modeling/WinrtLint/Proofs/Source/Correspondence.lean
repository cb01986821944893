import WinrtLint.Proofs.Source.Likeness

/-!
# Answers at related places

Ways up through related trees lead through the same namespaces and types, and a
query at related nodes has the same answer where the tables of names and the
visible values are the same (`Likeness.symbolAt_eq`).

A relation that holds with two trees of all trees below them pairs the sites of
the two units.  If it is a likeness as well, then the units declare the same
names, and the answers are the same at all sites (`Likeness.answers_eq`).
-/

namespace WinrtLint.Source

open WinrtLint.Pairs

/-! ## Related ways up -/

namespace Tree.Likeness

variable {related : Tree → Tree → Prop} {here there : List Tree}

theorem enclosingTypes_eq
    (likeness : Likeness related)
    (ways : List.Forall₂ related here there) :
    enclosingTypes here = enclosingTypes there := by
  rw [enclosingTypes, enclosingTypes]
  refine congrArg List.reverse (Pairs.filterMap_eq (fun first second pair => ?_) ways)
  rw [← (likeness.reads pair).kind]
  split
  · rename_i declares
    exact (likeness.reads pair).typeName declares
  · rfl

theorem openers_paired
    (likeness : Likeness related)
    (ways : List.Forall₂ related here there) :
    List.Forall₂ (fun first second => related first second ∧ first.kind.opensNamespace = true)
      (here.filter (·.kind.opensNamespace)) (there.filter (·.kind.opensNamespace)) :=
  Pairs.filter (fun _ _ pair => by rw [(likeness.reads pair).kind]) ways

theorem namespaceNames_eq
    (likeness : Likeness related)
    (ways : List.Forall₂ related here there) :
    (here.filter (·.kind.opensNamespace)).filterMap Tree.namespaceName? =
      (there.filter (·.kind.opensNamespace)).filterMap Tree.namespaceName? := by
  refine Pairs.filterMap_eq (fun first second opener => ?_) (likeness.openers_paired ways)
  refine likeness.namespaceName?_eq opener.1 fun isMethod => ?_
  rw [isMethod] at opener
  cases opener.2

theorem enclosingNamespaces_eq
    (likeness : Likeness related)
    (ways : List.Forall₂ related here there)
    (fileNamespace : Option String) :
    enclosingNamespaces fileNamespace here = enclosingNamespaces fileNamespace there := by
  have fileScoped : ((here.filter (·.kind.opensNamespace)).any
        fun opener => opener.kind = .fileScopedNamespace) =
      (there.filter (·.kind.opensNamespace)).any
        fun opener => opener.kind = .fileScopedNamespace :=
    Pairs.any_eq (fun _ _ opener => by rw [(likeness.reads opener.1).kind])
      (likeness.openers_paired ways)
  rw [enclosingNamespaces, enclosingNamespaces, likeness.namespaceNames_eq ways, fileScoped]

theorem namespacesAt_eq
    (likeness : Likeness related)
    (ways : List.Forall₂ related here there)
    (declarations : Declarations) :
    declarations.namespacesAt here = declarations.namespacesAt there :=
  likeness.enclosingNamespaces_eq ways declarations.fileNamespace

theorem typeValueNamesAround_eq
    (likeness : Likeness related)
    (ways : List.Forall₂ related here there) :
    (here.filter (·.kind.declaresType)).flatMap Tree.typeValueNames =
      (there.filter (·.kind.declaresType)).flatMap Tree.typeValueNames := by
  have declaring : List.Forall₂
      (fun first second => related first second ∧ first.kind.declaresType = true)
      (here.filter (·.kind.declaresType)) (there.filter (·.kind.declaresType)) :=
    Pairs.filter (fun _ _ pair => by rw [(likeness.reads pair).kind]) ways
  refine Pairs.flatMap_eq (fun first second declares => ?_) declaring
  refine likeness.typeValueNames_eq declares.1 fun isMethod => ?_
  rw [isMethod] at declares
  cases declares.2

end Tree.Likeness

/-! ## Related sites -/

namespace Site

/-- Two sites stand at one address, and their nodes and those above them are related. -/
structure Alike (related : Tree → Tree → Prop) (here there : Site) : Prop where
  node : related here.node there.node
  ancestors : List.Forall₂ related here.ancestors there.ancestors
  address : here.address = there.address

/-- The values around a site are those of the types around it and those of the local scope. -/
theorem valueNames_eq_map (site : Site) :
    site.valueNames =
      ((Source.localScope? site.address site.ancestors).map
        (Option.map fun scope => scope.node.localNames)).map
          fun names => names.elim site.memberNames site.memberNames.union := by
  rw [valueNames, localScope?]
  cases Source.localScope? site.address site.ancestors with
  | error failure => rfl
  | ok scope => cases scope <;> rfl

end Site

/-- A node may be the scope of the locals below it. -/
def Tree.MayScope (tree : Tree) : Prop :=
  tree.kind.isMemberScope = true ∨ tree.hasChildOf .globalStatement = true

/-- Two ways up through nodes of the same kinds, whose scopes declare the same locals, lead to the
same locals. -/
theorem localNamesAround_eq
    {here there : List Tree}
    (way : Tree.IsWayUp here)
    (ways : List.Forall₂ (fun first second => first.kind = second.kind ∧
      (first.MayScope → first.localNames = second.localNames)) here there)
    (address : List Nat) :
    (localScope? address here).map (Option.map fun scope => scope.node.localNames) =
      (localScope? address there).map (Option.map fun scope => scope.node.localNames) := by
  induction ways generalizing address with
  | nil => rfl
  | @cons first second here there pair rest induction =>
      cases address with
      | nil => rfl
      | cons position address =>
          simp only [localScope?, ← pair.1]
          split
          · rename_i member
            exact congrArg (Except.ok ∘ some) (pair.2 (.inl member))
          · split
            · rename_i isStatement
              cases rest with
              | nil => rfl
              | @cons holder other above beyond around _ =>
                  -- The holder of the statement is its parent, so it has a top-level statement.
                  have held : holder.hasChildOf .globalStatement = true :=
                    List.any_eq_true.2 ⟨first, (List.isChain_cons_cons.1 way).1,
                      by simpa using isStatement⟩
                  exact congrArg (Except.ok ∘ some) (around.2 (.inr held))
            · exact induction way.of_cons address

namespace Tree.Likeness

variable {related : Tree → Tree → Prop} {here there : Site}

theorem valueNames_site_eq
    (likeness : Likeness related)
    (pair : Site.Alike related here there)
    (way : Tree.IsWayUp here.ancestors)
    (scopes : List.Forall₂ (fun first second =>
      first.MayScope → first.localNames = second.localNames) here.ancestors there.ancestors) :
    here.valueNames = there.valueNames := by
  have members : here.memberNames = there.memberNames :=
    congrArg NameSet.ofList (likeness.typeValueNamesAround_eq pair.ancestors)
  have ways : List.Forall₂ (fun first second => first.kind = second.kind ∧
      (first.MayScope → first.localNames = second.localNames)) here.ancestors there.ancestors :=
    List.Forall₂.mp (fun _ _ related scope => ⟨(likeness.reads related).kind, scope⟩)
      pair.ancestors scopes
  rw [Site.valueNames_eq_map, Site.valueNames_eq_map, members, pair.address,
    localNamesAround_eq way ways]

/-- Related type declarations between the same namespaces and types are taken in alike. -/
theorem declaredType_eq
    (likeness : Likeness related)
    (node : related here.node there.node)
    (noMethod : here.node.kind ≠ .memberDeclaration .method)
    {left right : Declarations}
    (spaces : left.namespacesAt here.ancestors = right.namespacesAt there.ancestors)
    (types : enclosingTypes here.ancestors = enclosingTypes there.ancestors)
    {name other : Tree}
    (texts : name.text = other.text) :
    left.declaredType here.node name here.ancestors =
      right.declaredType there.node other there.ancestors := by
  rw [Declarations.declaredType, Declarations.declaredType, texts, types,
    ← (likeness.reads node).kind, likeness.modifiers_eq node noMethod,
    likeness.declaresValueType_eq node, likeness.staticMethodNames_eq node noMethod,
    Declarations.namespaceAt, Declarations.namespaceAt, spaces]

/-- Related nodes between the same namespaces and types are taken in alike, where file-scoped
namespaces are left aside. -/
theorem read_tables
    (likeness : Likeness related)
    (node : related here.node there.node)
    {left right : Declarations}
    (tables : left.SameTables right)
    (spaces : left.namespacesAt here.ancestors = right.namespacesAt there.ancestors)
    (types : enclosingTypes here.ancestors = enclosingTypes there.ancestors) :
    (left.read here).SameTables (right.read there) := by
  have reads := likeness.reads node
  rw [Declarations.read, Declarations.read, ← reads.kind]
  cases kind : here.node.kind with
  | usingDirective =>
      dsimp only
      rw [reads.directive kind]
      exact tables.readUsing there.node
  | fileScopedNamespace =>
      dsimp only
      cases here.node.childIn? .name <;> cases there.node.childIn? .name <;>
        exact ⟨tables.usings, tables.staticUsings, tables.aliases, tables.types⟩
  | typeDeclaration form =>
      have texts : (here.node.childIn? .name).map Tree.text =
          (there.node.childIn? .name).map Tree.text :=
        reads.typeName (by simp [kind, Kind.declaresType])
      dsimp only
      rw [Declarations.readType, Declarations.readType]
      cases first : here.node.childIn? .name with
      | none =>
          rw [first] at texts
          rw [Option.map_eq_none_iff.1 texts.symm]
          exact tables
      | some name =>
          rw [first] at texts
          rcases Option.map_eq_some_iff.1 texts.symm with ⟨other, second, same⟩
          rw [second]
          dsimp only
          rw [likeness.declaredType_eq node (by simp [kind]) spaces types same.symm, tables.types]
          exact ⟨tables.usings, tables.staticUsings, tables.aliases, rfl⟩
  | _ => exact tables

/-- Related sites are taken in alike. -/
theorem read_eq
    (likeness : Likeness related)
    (pair : Site.Alike related here there)
    (declarations : Declarations) :
    declarations.read here = declarations.read there := by
  have reads := likeness.reads pair.node
  have tables := likeness.read_tables pair.node (.refl declarations)
    (likeness.namespacesAt_eq pair.ancestors declarations)
    (likeness.enclosingTypes_eq pair.ancestors)
  refine tables.eq_of_fileNamespace ?_
  by_cases kind : here.node.kind = .fileScopedNamespace
  · have noMethod : here.node.kind ≠ .memberDeclaration .method := by simp [kind]
    have names := likeness.childIn? pair.node noMethod .name
    rw [Declarations.read, Declarations.read, ← reads.kind, kind]
    dsimp only
    generalize here.node.childIn? .name = first at names ⊢
    generalize there.node.childIn? .name = second at names ⊢
    cases names with
    | none => rfl
    | some found => exact (likeness.reads found.1).spelled (.inr (.inr (.inr (.inl found.2))))
  · rw [Declarations.fileNamespace_read kind, Declarations.fileNamespace_read (reads.kind ▸ kind)]

theorem foldl_read_eq
    (likeness : Likeness related)
    {first second : List Site}
    (paired : List.Forall₂ (Site.Alike related) first second)
    (declarations : Declarations) :
    first.foldl Declarations.read declarations = second.foldl Declarations.read declarations := by
  induction paired generalizing declarations with
  | nil => rfl
  | cons pair _ induction =>
      rw [List.foldl_cons, List.foldl_cons, likeness.read_eq pair]
      exact induction _

end Tree.Likeness

/-! ## Queries -/

namespace Site

/-- The sites of related trees that stand side by side below two sites, taken in pairs. -/
theorem placed_paired
    {related : Tree → Tree → Prop}
    {first second : List Tree}
    (paired : List.Forall₂ related first second)
    (here there : Site)
    (position : Nat) :
    List.Forall₂ (fun child other => related child.node other.node ∧
      child.ancestors = here.node :: here.ancestors ∧
      other.ancestors = there.node :: there.ancestors ∧
      ∃ position, child.address = position :: here.address ∧
        other.address = position :: there.address)
      (here.placed position first) (there.placed position second) := by
  induction paired generalizing position with
  | nil => exact .nil
  | cons pair _ induction =>
      exact .cons ⟨pair, rfl, rfl, position, rfl, rfl⟩ (induction (position + 1))

end Site

namespace Model

theorem typeSymbol_of_nullable
    (model : Model)
    {site : Site}
    (nullable : site.node.kind = .nullableType) :
    model.typeSymbol site = site.nullableInner?.bind model.typeSymbol := by
  rw [typeSymbol, Site.withoutNullable?, if_pos nullable]
  split
  · rename_i found
    exact (congrArg (Option.bind · model.typeSymbol) found).symm
  · rename_i inner found
    exact (congrArg (Option.bind · model.typeSymbol) found).symm

theorem typeSymbol_of_not_nullable
    (model : Model)
    {site : Site}
    (plain : site.node.kind ≠ .nullableType) :
    model.typeSymbol site =
      if site.node.kind = .identifier ∨ site.node.kind = .qualifiedName ∨
          site.node.kind = .aliasQualifiedName then
        (model.resolve site.node.text site.ancestors).map (·.type.symbol)
      else none := by
  rw [typeSymbol, Site.withoutNullable?, if_neg plain]
  cases kind : site.node.kind <;> simp [kind]

end Model

namespace Tree.Likeness

variable {related : Tree → Tree → Prop} {left right : Model}

theorem nullableInner?
    (likeness : Likeness related)
    {here there : Site}
    (pair : related here.node there.node)
    (nullable : here.node.kind = .nullableType) :
    Option.Rel (fun first second => first ∈ here.children ∧ related first.node second.node ∧
      first.ancestors = here.node :: here.ancestors ∧
      second.ancestors = there.node :: there.ancestors)
      here.nullableInner? there.nullableInner? := by
  have listed : List.Forall₂ (fun first second => first ∈ here.children ∧
      related first.node second.node ∧ first.ancestors = here.node :: here.ancestors ∧
      second.ancestors = there.node :: there.ancestors) here.children there.children := by
    refine (List.forall₂_and_left _ _).2 ⟨fun _ member => member, ?_⟩
    exact (Site.placed_paired (likeness.children pair (by simp [nullable])) here there 0).imp
      fun _ _ below => ⟨below.1, below.2.1, below.2.2.1⟩
  rw [Site.nullableInner?, Site.nullableInner?, Site.childIn?, Site.childIn?, Site.firstNamed?,
    Site.firstNamed?]
  apply optionOr
  · refine optionImp (fun _ _ found => found.1) (Pairs.find? (fun first second below => ?_) listed)
    rw [(likeness.reads below.2.1).field]
  · refine optionImp (fun _ _ found => found.1) (Pairs.find? (fun first second below => ?_) listed)
    rw [(likeness.reads below.2.1).isNamed]

theorem typeSymbol_eq
    (likeness : Likeness related)
    (tables : left.SameTables right)
    {here there : Site}
    (pair : related here.node there.node)
    (spaces : left.declarations.namespacesAt here.ancestors =
      right.declarations.namespacesAt there.ancestors) :
    left.typeSymbol here = right.typeSymbol there := by
  induction here using Site.induction_children generalizing there with
  | step here induction =>
      have reads := likeness.reads pair
      by_cases nullable : here.node.kind = .nullableType
      · rw [left.typeSymbol_of_nullable nullable,
          right.typeSymbol_of_nullable (reads.kind ▸ nullable)]
        have inner := likeness.nullableInner? pair nullable
        generalize here.nullableInner? = first at inner ⊢
        generalize there.nullableInner? = second at inner ⊢
        cases inner with
        | none => rfl
        | some found =>
            rcases found with ⟨member, below, up, upThere⟩
            refine induction _ member below ?_
            -- A nullable type opens no namespace.
            rw [up, upThere, namespacesAt_cons_of_not (by rw [nullable]; rfl),
              namespacesAt_cons_of_not (by rw [← reads.kind, nullable]; rfl), spaces]
      · rw [left.typeSymbol_of_not_nullable nullable,
          right.typeSymbol_of_not_nullable (reads.kind ▸ nullable), ← reads.kind]
        split
        · rename_i isName
          rw [tables.resolve spaces (reads.spelled (by tauto))]
        · rfl

theorem invocationSymbol_eq
    (likeness : Likeness related)
    (tables : left.SameTables right)
    {here there : Site}
    (pair : related here.node there.node)
    (spaces : left.declarations.namespacesAt here.ancestors =
      right.declarations.namespacesAt there.ancestors)
    (types : enclosingTypes here.ancestors = enclosingTypes there.ancestors)
    (values : here.valueNames = there.valueNames) :
    left.invocationSymbol here = right.invocationSymbol there := by
  have reads := likeness.reads pair
  rw [Model.invocationSymbol, Model.invocationSymbol, Model.invocationSymbolWith,
    Model.invocationSymbolWith, ← reads.kind]
  split
  · rename_i access
    have noMethod : here.node.kind ≠ .memberDeclaration .method := by simp [access]
    have methods : (here.node.childIn? .name).bind Tree.simpleName? =
        (there.node.childIn? .name).bind Tree.simpleName? :=
      optionBind_eq (fun _ _ found => likeness.simpleName?_eq found.1)
        (likeness.childIn? pair noMethod .name)
    have receivers := likeness.childIn? pair noMethod .expression
    rw [methods]
    generalize here.node.childIn? .expression = first at receivers ⊢
    generalize there.node.childIn? .expression = second at receivers ⊢
    cases receivers with
    | none => rfl
    | @some first second found =>
        cases (there.node.childIn? .name).bind Tree.simpleName? with
        | none => rfl
        | some method =>
            have spelled := (likeness.reads found.1).spelled
              (.inr (.inr (.inr (.inr found.2))))
            have candidate : Model.valueCandidate? first.text =
                Model.valueCandidate? second.text := by
              rw [Model.valueCandidate?, Model.valueCandidate?, spelled,
                (likeness.reads found.1).receiver found.2]
            dsimp only
            rw [candidate, values, tables.accessedMethod spaces spelled]
  · rw [likeness.simpleName?_eq pair]
    simp only [tables.simpleMethod spaces types]

/-- A query at related nodes has the same answer where the tables of names, the namespaces and
types around the nodes, and the visible values are the same. -/
theorem symbolAt_eq
    (likeness : Likeness related)
    (tables : left.SameTables right)
    {here there : Site}
    (pair : related here.node there.node)
    (spaces : left.declarations.namespacesAt here.ancestors =
      right.declarations.namespacesAt there.ancestors)
    (types : enclosingTypes here.ancestors = enclosingTypes there.ancestors)
    (values : here.valueNames = there.valueNames)
    (role : Option Role) :
    left.symbolAt role here = right.symbolAt role there := by
  rw [Model.symbolAt, Model.symbolAt,
    likeness.invocationSymbol_eq tables pair spaces types values,
    likeness.typeSymbol_eq tables pair spaces]

end Tree.Likeness

/-! ## Trees related throughout -/

namespace Tree

/-- With two trees, a relation holds of the trees directly below them. -/
def Hereditary (related : Tree → Tree → Prop) : Prop :=
  ∀ {left right : Tree}, related left right → List.Forall₂ related left.children right.children

/-- Two trees of one shape whose nodes agree place by place. -/
inductive Pointwise (agree : Tree → Tree → Prop) : Tree → Tree → Prop where
  | node
      {left right : Tree}
      (here : agree left right)
      (below : List.Forall₂ (Pointwise agree) left.children right.children) :
      Pointwise agree left right

namespace Pointwise

variable {agree : Tree → Tree → Prop} {left right : Tree}

theorem here (pair : Pointwise agree left right) : agree left right := by
  cases pair with
  | node here _ => exact here

theorem children (pair : Pointwise agree left right) :
    List.Forall₂ (Pointwise agree) left.children right.children := by
  cases pair with
  | node _ below => exact below

theorem hereditary : Hereditary (Pointwise agree) :=
  fun pair => pair.children

/-- A tree agrees with itself where each node does. -/
theorem refl (self : ∀ node, agree node node) (tree : Tree) :
    Pointwise agree tree tree := by
  cases tree with
  | node label children =>
      refine .node (self _) (List.forall₂_same.2 fun child member => ?_)
      have smaller := List.sizeOf_lt_of_mem (show child ∈ children from member)
      exact refl self child
termination_by sizeOf tree
decreasing_by
  simp only [Tree.node.sizeOf_spec]
  omega

mutual

/-- Whether two trees agree place by place. -/
def decidable [DecidableRel agree] :
    (left right : Tree) → Decidable (Pointwise agree left right)
  | .node label children, .node other others =>
      match (inferInstance : Decidable (agree (.node label children) (.node other others))),
          decidableAll children others with
      | .isTrue here, .isTrue below => .isTrue (.node here below)
      | .isFalse apart, _ => .isFalse fun pair => apart pair.here
      | _, .isFalse apart => .isFalse fun pair => apart pair.children

/-- Whether trees that stand side by side agree place by place. -/
def decidableAll [DecidableRel agree] :
    (left right : List Tree) → Decidable (List.Forall₂ (Pointwise agree) left right)
  | [], [] => .isTrue .nil
  | [], _ :: _ => .isFalse nofun
  | _ :: _, [] => .isFalse nofun
  | tree :: rest, other :: others =>
      match decidable tree other, decidableAll rest others with
      | .isTrue pair, .isTrue paired => .isTrue (.cons pair paired)
      | .isFalse apart, _ => .isFalse fun paired => apart (List.forall₂_cons.1 paired).1
      | _, .isFalse apart => .isFalse fun paired => apart (List.forall₂_cons.1 paired).2

end

instance [DecidableRel agree] (left right : Tree) :
    Decidable (Pointwise agree left right) :=
  decidable left right

end Pointwise

variable {related : Tree → Tree → Prop} {left right : Tree}

/-- The sites below two sites are paired where the trees below them are, whatever the relation
between the nodes above. -/
theorem Hereditary.sites_below
    {inner : Tree → Tree → Prop}
    (hereditary : Hereditary inner)
    (weaken : ∀ {left right : Tree}, inner left right → related left right)
    {here there : Site}
    (node : inner here.node there.node)
    (ancestors : List.Forall₂ related here.ancestors there.ancestors)
    (address : here.address = there.address) :
    List.Forall₂ (Site.Alike related) here.below there.below := by
  induction here using Site.induction_children generalizing there with
  | step here induction =>
      have children : List.Forall₂ (fun first second => List.Forall₂ (Site.Alike related)
          first.below second.below) here.children there.children := by
        have placed := (List.forall₂_and_left _ _).2
          ⟨fun _ member => member, Site.placed_paired (hereditary node) here there 0⟩
        refine placed.imp fun first second pair => ?_
        rcases pair with ⟨member, nodes, up, upThere, position, down, downThere⟩
        refine induction first member nodes ?_ (by rw [down, downThere, address])
        rw [up, upThere]
        exact .cons (weaken node) ancestors
      rw [Site.below_eq, Site.below_eq]
      exact .cons ⟨weaken node, ancestors, address⟩
        (List.rel_flatMap children fun _ _ below => below)

theorem Hereditary.sites
    (hereditary : Hereditary related)
    (pair : related left right) :
    List.Forall₂ (Site.Alike related) left.sites right.sites :=
  have atRoot : Site.Alike related ⟨left, [], []⟩ ⟨right, [], []⟩ := ⟨pair, .nil, rfl⟩
  hereditary.sites_below id atRoot.node atRoot.ancestors atRoot.address

theorem Hereditary.preorder
    (hereditary : Hereditary related)
    (pair : related left right) :
    List.Forall₂ related left.preorder right.preorder := by
  rw [← map_node_sites, ← map_node_sites]
  exact List.rel_map (fun _ _ sites => sites.node) (hereditary.sites pair)

namespace Likeness

theorem valueNames_preorder_eq
    (likeness : Likeness related)
    (hereditary : Hereditary related)
    {first second : List Tree}
    (paired : List.Forall₂ related first second) :
    valueNames (first.flatMap Tree.preorder) = valueNames (second.flatMap Tree.preorder) :=
  likeness.valueNames_eq (List.rel_flatMap paired fun _ _ => hereditary.preorder)

theorem localNames_eq
    (likeness : Likeness related)
    (hereditary : Hereditary related)
    (pair : related left right) :
    left.localNames = right.localNames := by
  have statements : List.Forall₂ related
      (if left.kind = .compilationUnit then
        left.children.filter fun child => child.kind = .globalStatement else [left])
      (if right.kind = .compilationUnit then
        right.children.filter fun child => child.kind = .globalStatement else [right]) := by
    rw [← (likeness.reads pair).kind]
    split
    · exact (Pairs.filter (fun first second below => by rw [(likeness.reads below).kind])
        (hereditary pair)).imp fun _ _ below => below.1
    · exact .cons pair .nil
  exact congrArg NameSet.ofList (likeness.valueNames_preorder_eq hereditary statements)

/-- Units that are related throughout declare the same names. -/
theorem ofTree_eq
    (likeness : Likeness related)
    (hereditary : Hereditary related)
    (pair : related left right) :
    Declarations.ofTree left = Declarations.ofTree right :=
  likeness.foldl_read_eq (hereditary.sites pair) {}

/-- Units that are related throughout have the same answers at all their nodes. -/
theorem answers_eq
    (likeness : Likeness related)
    (hereditary : Hereditary related)
    (pair : related left right)
    (catalog : Catalog) :
    List.Forall₂ (fun here there => here.address = there.address ∧ ∀ role,
      (Model.ofTree catalog left).symbolAt role here =
        (Model.ofTree catalog right).symbolAt role there) left.sites right.sites := by
  have declared := likeness.ofTree_eq hereditary pair
  have paired := (List.forall₂_and_left _ _).2
    ⟨fun _ member => Tree.isWayUp_of_mem_sites member, hereditary.sites pair⟩
  refine paired.imp fun here there sites => ⟨sites.2.address, fun role => ?_⟩
  have ways := sites.2.ancestors
  have spaces : (Declarations.ofTree left).namespacesAt here.ancestors =
      (Declarations.ofTree right).namespacesAt there.ancestors := by
    rw [declared]
    exact likeness.namespacesAt_eq ways _
  refine likeness.symbolAt_eq (.of_declarations catalog (.of_eq declared)) sites.2.node spaces
    (likeness.enclosingTypes_eq ways) ?_ role
  refine likeness.valueNames_site_eq sites.2 sites.1.of_cons (ways.imp ?_)
  exact fun _ _ scopes _ => likeness.localNames_eq hereditary scopes

end Likeness

end Tree

end WinrtLint.Source
