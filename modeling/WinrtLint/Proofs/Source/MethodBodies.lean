import WinrtLint.Proofs.Source.GlobalNames
import WinrtLint.Proofs.Source.SameSource

/-!
# Editing the body of a method

Two units may differ in the body of one method that stands in no other member
and in no top-level statement.  What the unit declares is not affected if the
bodies declare nothing for the unit.  Neither is a local scope outside the
method, for a scope around the method could only be that of the top-level
statements, and these are the same in both units.  So all that stands outside
the method binds as before (`Model.body_edit_confined`).
-/

namespace WinrtLint.Source

namespace Tree

/-! ## The edit -/

/-- The block or the arrow clause of a method, which declares nothing for the unit. -/
structure IsBody (tree : Tree) : Prop where
  field : tree.label.field = some .body
  isNamed : tree.label.isNamed = true
  kind : tree.kind = .other "block" ∨ tree.kind = .other "arrow_expression_clause"
  nothing : tree.DeclaresNothing

/-- Two lists of trees are written alike but for the trees at one position. -/
def AgreeBut
    (position : Nat)
    (child other : Tree)
    (left right : List Tree) :
    Prop :=
  ∃ before others after rest, before.length = position ∧ left = before ++ child :: after ∧
    right = others ++ other :: rest ∧ List.Forall₂ (Pointwise SameSource) before others ∧
    List.Forall₂ (Pointwise SameSource) after rest

/--
Two trees differ in the body of the method at an address, with no member and no
top-level statement around the method.  Addresses go from the method upward.
-/
inductive BodyEdited : List Nat → Tree → Tree → Prop where
  | method
      {left right body edited : Tree}
      {position : Nat}
      (around : SameAround left right)
      (isMethod : left.kind = .memberDeclaration .method)
      (parts : AgreeBut position body edited left.children right.children)
      (isBody : IsBody body)
      (alsoBody : IsBody edited) :
      BodyEdited [] left right
  | deeper
      {left right child other : Tree}
      {position : Nat}
      {address : List Nat}
      (around : SameAround left right)
      (noMember : left.kind.isMemberScope = false)
      (noStatement : left.kind ≠ .globalStatement)
      (parts : AgreeBut position child other left.children right.children)
      (inside : BodyEdited address child other)
      (directive : left.kind = .usingDirective → child.text = other.text) :
      BodyEdited (address ++ [position]) left right

/-- Two trees are written alike or differ in the body of one method. -/
def Edited (left right : Tree) : Prop :=
  Pointwise SameSource left right ∨ ∃ address, BodyEdited address left right

/-- Two trees are written alike or differ in the body of one method below them. -/
def Surrounding (left right : Tree) : Prop :=
  Pointwise SameSource left right ∨ ∃ address ≠ [], BodyEdited address left right

/-- The sites of a tree but those of the node at an address and below it. -/
def sitesOutside (root : Tree) (address : List Nat) : List Site :=
  root.sites.filter fun site => ¬ address <:+ site.address

/-! ## Units before and after an edit are alike -/

variable {left right : Tree}

theorem BodyEdited.around
    {address : List Nat}
    (edited : BodyEdited address left right) :
    SameAround left right := by
  cases edited with
  | method around => exact around
  | deeper around => exact around

theorem Edited.around (edited : Edited left right) : SameAround left right := by
  rcases edited with same | ⟨address, edited⟩
  · exact same.here.around
  · exact edited.around

theorem AgreeBut.paired
    {related : Tree → Tree → Prop}
    {position : Nat}
    {child other : Tree}
    {left right : List Tree}
    (parts : AgreeBut position child other left right)
    (weaken : ∀ first second, Pointwise SameSource first second → related first second)
    (pair : related child other) :
    List.Forall₂ related left right := by
  rcases parts with ⟨before, others, after, rest, -, rfl, rfl, sameBefore, sameAfter⟩
  exact List.rel_append (sameBefore.imp weaken) (.cons pair (sameAfter.imp weaken))

theorem Edited.parts (edited : Edited left right) :
    List.Forall₂ (fun first second => Edited first second ∨
      left.kind = .memberDeclaration .method ∧ IsBody first ∧ IsBody second)
      left.children right.children := by
  rcases edited with same | ⟨address, edited⟩
  · exact same.children.imp fun _ _ same => .inl (.inl same)
  · cases edited with
    | method around isMethod parts isBody alsoBody =>
        exact parts.paired (fun _ _ same => .inl (.inl same)) (.inr ⟨isMethod, isBody, alsoBody⟩)
    | deeper around noMember noStatement parts inside directive =>
        exact parts.paired (fun _ _ same => .inl (.inl same)) (.inl (.inr ⟨_, inside⟩))

/-- The parts of a using directive have the same texts. -/
theorem Edited.directiveParts
    (edited : Edited left right)
    (directive : left.kind = .usingDirective) :
    List.Forall₂ (fun first second => Edited first second ∧ first.text = second.text)
      left.children right.children := by
  rcases edited with same | ⟨address, edited⟩
  · exact same.children.imp fun _ _ same => ⟨.inl same, same.here.text⟩
  · cases edited with
    | method around isMethod parts isBody alsoBody =>
        rw [directive] at isMethod
        cases isMethod
    | deeper around noMember noStatement parts inside texts =>
        exact parts.paired (fun _ _ same => ⟨.inl same, same.here.text⟩)
          ⟨.inr ⟨_, inside⟩, texts directive⟩

theorem Edited.readUsing_eq
    (edited : Edited left right)
    (directive : left.kind = .usingDirective)
    (declarations : Declarations) :
    declarations.readUsing left = declarations.readUsing right := by
  refine readUsing_eq_of_sameText Edited.around ?_ (edited.directiveParts directive) declarations
  intro first second clause isClause
  refine clause.parts.imp fun _ _ word => ?_
  rcases word with word | ⟨isMethod, -⟩
  · exact word.around
  · rw [isClause] at isMethod
    cases isMethod

theorem IsBody.isModifier_eq (isBody : IsBody left) :
    left.kind.isModifier = false := by
  rcases isBody.kind with kind | kind <;> rw [kind] <;> rfl

theorem IsBody.part (isBody : IsBody left) (alsoBody : IsBody right) :
    SamePart left right where
  field := by rw [isBody.field, alsoBody.field]
  isModifier := by rw [isBody.isModifier_eq, alsoBody.isModifier_eq]
  modifier isModifier := by
    rw [isBody.isModifier_eq] at isModifier
    cases isModifier
  name isName := by
    rw [isBody.field] at isName
    cases isName

theorem Edited.readsAlike (edited : Edited left right) :
    left.ReadsAlike right := by
  refine edited.around.readsAlike (edited.parts.imp fun first second part => ?_)
    edited.readUsing_eq
  rcases part with part | ⟨-, isBody, alsoBody⟩
  · exact part.around.part
  · exact isBody.part alsoBody

theorem IsBody.closed (isBody : IsBody left) (alsoBody : IsBody right) :
    Closed left right := by
  refine ⟨?_, ?_, by rw [isBody.isNamed, alsoBody.isNamed]⟩
  · exact isBody.kind.elim (fun kind => ⟨_, kind⟩) fun kind => ⟨_, kind⟩
  · exact alsoBody.kind.elim (fun kind => ⟨_, kind⟩) fun kind => ⟨_, kind⟩

theorem likeness_edited : Likeness Edited where
  reads := Edited.readsAlike
  below edited := edited.parts.imp fun _ _ below =>
    below.imp id fun body => ⟨body.1, body.2.1.closed body.2.2⟩

end Tree

/-! ## Sites outside the method -/

namespace Site

theorem address_suffix_of_mem_below
    {top site : Site}
    (inside : site ∈ top.below) :
    top.address <:+ site.address := by
  induction top using induction_children with
  | step top induction =>
      rw [below_eq] at inside
      rcases List.mem_cons.1 inside with rfl | later
      · exact List.suffix_refl _
      · rcases List.mem_flatMap.1 later with ⟨child, member, deeper⟩
        have suffix := induction child member deeper
        rcases List.mem_map.1 member with ⟨entry, -, rfl⟩
        exact (List.suffix_cons _ _).trans suffix

theorem address_of_mem_placed
    {site child : Site}
    {position : Nat}
    {trees : List Tree}
    (member : child ∈ site.placed position trees) :
    ∃ index, position ≤ index ∧
      index < position + trees.length ∧ child.address = index :: site.address := by
  rcases List.mem_map.1 member with ⟨⟨tree, index⟩, listed, rfl⟩
  have bound := List.snd_lt_of_mem_zipIdx listed
  exact ⟨index, List.le_snd_of_mem_zipIdx listed, by simpa [Nat.add_comm] using bound, rfl⟩

/-- The sites below a site with a distinguished child. -/
theorem below_of_children
    (site : Site)
    {before after : List Tree}
    {child : Tree}
    (parts : site.node.children = before ++ child :: after) :
    site.below = site :: (site.belowFrom 0 before ++
      (below ⟨child, before.length :: site.address, site.node :: site.ancestors⟩ ++
        site.belowFrom (before.length + 1) after)) := by
  rw [below_eq_belowFrom, parts, belowFrom_append, belowFrom_cons, Nat.zero_add]

/-- What stands below a sibling is not below the node in question. -/
theorem not_suffix_of_sibling
    {index position : Nat}
    {above address found : List Nat}
    (sibling : index :: above <:+ found)
    (apart : index ≠ position) :
    ¬ address ++ position :: above <:+ found := by
  intro inside
  have other : position :: above <:+ found := (List.suffix_append _ _).trans inside
  have same := (List.suffix_of_suffix_length_le sibling other (by simp)).eq_of_length (by simp)
  exact apart (List.cons.inj same).1

theorem filter_belowFrom
    {site : Site}
    {position target : Nat}
    {trees : List Tree}
    (apart : ∀ index, position ≤ index → index < position + trees.length → index ≠ target)
    (address : List Nat) :
    (site.belowFrom position trees).filter
        (fun other => ¬ address ++ target :: site.address <:+ other.address) =
      site.belowFrom position trees := by
  apply List.filter_eq_self.2
  intro other member
  rcases List.mem_flatMap.1 member with ⟨child, placed, deeper⟩
  rcases address_of_mem_placed placed with ⟨index, least, bound, address⟩
  have sibling := address_suffix_of_mem_below deeper
  rw [address] at sibling
  exact decide_eq_true (not_suffix_of_sibling sibling (apart index least bound))

/-- The sites outside a node below a child are those below the other children, and those below
the child but outside the node. -/
theorem filter_below_of_children
    (site : Site)
    {before after : List Tree}
    {child : Tree}
    (parts : site.node.children = before ++ child :: after)
    (address : List Nat) :
    (site.below.filter fun other =>
        ¬ address ++ before.length :: site.address <:+ other.address) =
      site :: (site.belowFrom 0 before ++
        ((below ⟨child, before.length :: site.address, site.node :: site.ancestors⟩).filter
            (fun other => ¬ address ++ before.length :: site.address <:+ other.address) ++
          site.belowFrom (before.length + 1) after)) := by
  have above : ¬ address ++ before.length :: site.address <:+ site.address := by
    intro suffix
    have longer := suffix.length_le
    simp at longer
    omega
  rw [below_of_children site parts, List.filter_cons, if_pos (decide_eq_true above),
    List.filter_append, List.filter_append, filter_belowFrom (fun index _ bound => by omega),
    filter_belowFrom (fun index least _ => by omega)]

end Site

namespace Tree

variable {left right : Tree} {here there : Site}

theorem Surrounding.edited (surrounding : Surrounding left right) :
    Edited left right :=
  surrounding.imp id fun ⟨address, _, edited⟩ => ⟨address, edited⟩

/-- What is written alike below two nodes around the edit is paired. -/
theorem belowFrom_paired
    {related : Tree → Tree → Prop}
    (weaken : ∀ {left right : Tree}, Pointwise SameSource left right → related left right)
    (pair : Site.Alike related here there)
    {first second : List Tree}
    (same : List.Forall₂ (Pointwise SameSource) first second)
    (position : Nat) :
    List.Forall₂ (Site.Alike related) (here.belowFrom position first)
      (there.belowFrom position second) := by
  refine List.rel_flatMap (Site.placed_paired same here there position) ?_
  rintro child other ⟨nodes, up, upThere, index, down, downThere⟩
  have ways : List.Forall₂ related child.ancestors other.ancestors := by
    rw [up, upThere]
    exact .cons pair.node pair.ancestors
  exact Pointwise.hereditary.sites_below weaken nodes ways (by rw [down, downThere, pair.address])

/-- The sites outside the method are paired, and the method is above none of them. -/
theorem BodyEdited.sites_paired
    {address : List Nat}
    (edited : BodyEdited address left right)
    {here there : List Tree}
    (ways : List.Forall₂ Surrounding here there)
    (base : List Nat) :
    List.Forall₂ (Site.Alike Surrounding)
      ((Site.below ⟨left, base, here⟩).filter
        fun site => ¬ address ++ base <:+ site.address)
      ((Site.below ⟨right, base, there⟩).filter
        fun site => ¬ address ++ base <:+ site.address) := by
  induction edited generalizing here there base with
  | method around isMethod parts isBody alsoBody =>
      -- The method itself stands at the address, so nothing is left of it in either unit.
      have nothing : ∀ top : Site,
          top.below.filter (fun site => ¬ [] ++ top.address <:+ site.address) = [] := by
        intro top
        refine List.filter_eq_nil_iff.2 fun site inside => ?_
        simpa using Site.address_suffix_of_mem_below inside
      exact (nothing ⟨_, base, here⟩).symm ▸ (nothing ⟨_, base, there⟩).symm ▸ .nil
  | @deeper left right child other position address around noMember noStatement parts inside
      directive induction =>
      have top : Site.Alike Surrounding ⟨left, base, here⟩ ⟨right, base, there⟩ :=
        ⟨.inr ⟨_, by simp, .deeper around noMember noStatement parts inside directive⟩, ways, rfl⟩
      rcases parts with ⟨before, others, after, rest, rfl, leftParts, rightParts, sameBefore,
        sameAfter⟩
      have leftSites := Site.filter_below_of_children ⟨left, base, here⟩ leftParts address
      have rightSites := Site.filter_below_of_children ⟨right, base, there⟩ rightParts address
      rw [← sameBefore.length_eq] at rightSites
      rw [List.append_assoc, List.singleton_append, leftSites, rightSites]
      -- The siblings of the node on the way down stay whole; the induction is for that node.
      refine .cons top ?_
      refine List.rel_append (belowFrom_paired .inl top sameBefore 0) ?_
      refine List.rel_append ?_ (belowFrom_paired .inl top sameAfter _)
      exact induction (.cons top.node ways) (before.length :: base)

/-! ## Declarations and scopes outside the method -/

/-- Two nodes take in the same declarations if the differing trees below them do. -/
theorem AgreeBut.foldl_read_eq
    {position : Nat}
    {child other : Tree}
    (parts : AgreeBut position child other left.children right.children)
    {base : List Nat}
    {here there : List Tree}
    (top : Site.Alike Edited ⟨left, base, here⟩ ⟨right, base, there⟩)
    (inside : ∀ declarations,
      (Site.below ⟨child, position :: base, left :: here⟩).foldl Declarations.read declarations =
        (Site.below ⟨other, position :: base, right :: there⟩).foldl Declarations.read
          declarations)
    (declarations : Declarations) :
    (Site.below ⟨left, base, here⟩).foldl Declarations.read declarations =
      (Site.below ⟨right, base, there⟩).foldl Declarations.read declarations := by
  rcases parts with ⟨before, others, after, rest, rfl, leftParts, rightParts, sameBefore,
    sameAfter⟩
  have first := belowFrom_paired .inl top sameBefore 0
  have last := belowFrom_paired .inl top sameAfter (before.length + 1)
  rw [Site.below_of_children ⟨left, base, here⟩ leftParts,
    Site.below_of_children ⟨right, base, there⟩ rightParts, ← sameBefore.length_eq]
  simp only [List.foldl_cons, List.foldl_append]
  rw [likeness_edited.read_eq top, likeness_edited.foldl_read_eq first, inside,
    likeness_edited.foldl_read_eq last]

/-- The two units take in the same declarations. -/
theorem BodyEdited.foldl_read_eq
    {address : List Nat}
    (edited : BodyEdited address left right)
    {here there : List Tree}
    (ways : List.Forall₂ Edited here there)
    (base : List Nat)
    (declarations : Declarations) :
    (Site.below ⟨left, base, here⟩).foldl Declarations.read declarations =
      (Site.below ⟨right, base, there⟩).foldl Declarations.read declarations := by
  have top : Site.Alike Edited ⟨left, base, here⟩ ⟨right, base, there⟩ :=
    ⟨.inr ⟨address, edited⟩, ways, rfl⟩
  induction edited generalizing here there base declarations with
  | method around isMethod parts isBody alsoBody =>
      -- All that differs are the bodies, and nothing of them is taken in.
      refine parts.foldl_read_eq top (fun declarations => ?_) declarations
      rw [Tree.DeclaresNothing.foldl_read_below isBody.nothing,
        Tree.DeclaresNothing.foldl_read_below alsoBody.nothing]
  | @deeper left right child other position address around noMember noStatement parts inside
      directive induction =>
      have ways : List.Forall₂ Edited (left :: here) (right :: there) := .cons top.node ways
      refine parts.foldl_read_eq top (fun declarations => ?_) declarations
      exact induction ways _ declarations ⟨.inr ⟨address, inside⟩, ways, rfl⟩

/-- The node at which the way to the method goes on is no top-level statement. -/
theorem BodyEdited.kind_ne_globalStatement
    {address : List Nat}
    (edited : BodyEdited address left right) :
    left.kind ≠ .globalStatement := by
  cases edited with
  | method around isMethod =>
      rw [isMethod]
      exact Kind.noConfusion
  | deeper around noMember noStatement => exact noStatement

/-- A scope around the method is that of the top-level statements, which are the same. -/
theorem Surrounding.localNames_eq
    (surrounding : Surrounding left right)
    (unit : left.hasChildOf .globalStatement = true → left.kind = .compilationUnit)
    (scope : left.MayScope) :
    left.localNames = right.localNames := by
  rcases surrounding with same | ⟨address, notEmpty, edited⟩
  · exact likeness_sameSource.localNames_eq Pointwise.hereditary same
  · have around := edited.around
    cases edited with
    | method => exact absurd rfl notEmpty
    | @deeper _ _ child other position address _ noMember noStatement parts inside _ =>
        -- The node is no member, so it is a scope for its top-level statements only, and the
        -- way to the method leads through none of them.
        have isUnit := unit (scope.resolve_left (by rw [noMember]; exact Bool.false_ne_true))
        have paired : List.Forall₂ (fun first second => first.kind = second.kind ∧
            (first.kind = .globalStatement → Pointwise SameSource first second))
            left.children right.children :=
          parts.paired (fun _ _ same => ⟨same.here.kind, fun _ => same⟩)
            ⟨inside.around.kind,
              fun isStatement => absurd isStatement inside.kind_ne_globalStatement⟩
        have listed : List.Forall₂ _
            (left.children.filter fun child => child.kind = .globalStatement)
            (right.children.filter fun child => child.kind = .globalStatement) :=
          Pairs.filter (fun _ _ pair => by rw [pair.1]) paired
        have statements := listed.imp fun _ _ pair => pair.1.2 (of_decide_eq_true pair.2)
        rw [localNames, localNames, if_pos isUnit, if_pos (around.kind ▸ isUnit)]
        exact congrArg NameSet.ofList <|
          likeness_sameSource.valueNames_preorder_eq Pointwise.hereditary statements

end Tree

/-! ## Answers outside the method -/

/--
Editing the body of a method changes no answer outside the method: the nodes of
the two units that stand outside it correspond, and a question in any role about
one of them has the same answer in both units.
-/
theorem Model.body_edit_confined
    (catalog : Catalog)
    {left right : Tree}
    {address : List Nat}
    (edited : Tree.BodyEdited address left right)
    (statements : ∀ node ∈ left.preorder, node.hasChildOf .globalStatement = true →
      node.kind = .compilationUnit) :
    List.Forall₂ (fun here there => here.address = there.address ∧ ∀ role,
      (Model.ofTree catalog left).symbolAt role here =
        (Model.ofTree catalog right).symbolAt role there)
      (left.sitesOutside address) (right.sitesOutside address) := by
  have declared : Declarations.ofTree left = Declarations.ofTree right :=
    edited.foldl_read_eq .nil [] {}
  have paired : List.Forall₂ (Site.Alike Tree.Surrounding) (left.sitesOutside address)
      (right.sitesOutside address) := by
    have sites := edited.sites_paired .nil []
    rwa [List.append_nil] at sites
  have inside : ∀ site ∈ left.sitesOutside address, site ∈ left.sites :=
    fun site member => (List.mem_filter.1 member).1
  refine ((List.forall₂_and_left _ _).2 ⟨inside, paired⟩).imp fun here there pair => ?_
  rcases pair with ⟨member, pair⟩
  refine ⟨pair.address, fun role => ?_⟩
  have alike : Site.Alike Tree.Edited here there :=
    ⟨pair.node.edited, pair.ancestors.imp fun _ _ surrounding => surrounding.edited, pair.address⟩
  have way := Tree.isWayUp_of_mem_sites member
  have spaces : (Declarations.ofTree left).namespacesAt here.ancestors =
      (Declarations.ofTree right).namespacesAt there.ancestors := by
    rw [declared]
    exact Tree.likeness_edited.namespacesAt_eq alike.ancestors _
  have scopes : List.Forall₂ (fun first second =>
      first.MayScope → first.localNames = second.localNames) here.ancestors there.ancestors := by
    have listed := (List.forall₂_and_left _ _).2
      ⟨fun _ above => Tree.mem_preorder_of_mem_ancestors member above, pair.ancestors⟩
    exact listed.imp fun first second above => above.2.localNames_eq (statements first above.1)
  exact Tree.likeness_edited.symbolAt_eq (.of_declarations catalog (.of_eq declared))
    alike.node spaces (Tree.likeness_edited.enclosingTypes_eq alike.ancestors)
    (Tree.likeness_edited.valueNames_site_eq alike way.of_cons scopes) role

namespace Sample

/-- A method with the given statements beside one that calls a listed method. -/
def neighborRoot (statements : List Tree) : Tree :=
  phrase .compilationUnit none
    [opening "Sample",
      classOf "Owner" [methodOf "Rest" [] statements,
        methodOf "Run" [] [callThrough "Counter" "Read"]]]

/-- A local named like the listed type. -/
def namesake : Tree :=
  phrase .variableDeclaration none
    [phrase .variableDeclarator none [word .identifier (some .name) "Counter"]]

theorem agreeBut_append (before after : List Tree) (child other : Tree) :
    Tree.AgreeBut before.length child other (before ++ child :: after)
      (before ++ other :: after) := by
  have same : ∀ trees : List Tree,
      List.Forall₂ (Tree.Pointwise Tree.SameSource) trees trees :=
    fun trees => List.forall₂_same.2 fun tree _ => Tree.sameSource_refl tree
  exact ⟨before, before, after, after, rfl, rfl, rfl, same before, same after⟩

theorem bodyEdited_phrase
    (kind : Kind)
    (field : Option Field)
    (before after : List Tree)
    {address : List Nat}
    {child other : Tree}
    (inside : Tree.BodyEdited address child other)
    (noMember : kind.isMemberScope = false)
    (noStatement : kind ≠ .globalStatement)
    (noDirective : kind ≠ .usingDirective) :
    Tree.BodyEdited (address ++ [before.length]) (phrase kind field (before ++ child :: after))
      (phrase kind field (before ++ other :: after)) :=
  .deeper ⟨rfl, rfl, rfl, fun _ => rfl⟩ noMember noStatement
    (agreeBut_append before after child other) inside fun directive => absurd directive noDirective

/-- The statements of the first method before the edit. -/
def plainStatements : List Tree :=
  [callThrough "Counter" "Read"]

/-- The statements after the edit: a local hides the listed type from the same call. -/
def hidingStatements : List Tree :=
  [namesake, callThrough "Counter" "Read"]

theorem bodyEdited_neighborRoot :
    Tree.BodyEdited [0, 1, 1] (neighborRoot plainStatements) (neighborRoot hidingStatements) := by
  have method : Tree.BodyEdited [] (methodOf "Rest" [] plainStatements)
      (methodOf "Rest" [] hidingStatements) :=
    .method ⟨rfl, rfl, rfl, fun _ => rfl⟩ rfl
      (agreeBut_append [word .identifier (some .name) "Rest",
        phrase .parameterList (some .parameters) []] [] _ _)
      ⟨rfl, rfl, .inl rfl, by decide +kernel⟩ ⟨rfl, rfl, .inl rfl, by decide +kernel⟩
  have members := bodyEdited_phrase (.other "declaration_list") (some .body) []
    [methodOf "Run" [] [callThrough "Counter" "Read"]] method rfl (by decide) (by decide)
  have owner := bodyEdited_phrase (.typeDeclaration .classForm) none
    [word .identifier (some .name) "Owner"] [] members rfl (by decide) (by decide)
  exact bodyEdited_phrase .compilationUnit none [opening "Sample"] [] owner rfl (by decide)
    (by decide)

end Sample

open Sample

/-- A local hides the listed type from the call beside it, and from no call in another method. -/
theorem Model.body_edit_confined_neighborRoot :
    Tree.BodyEdited [0, 1, 1] (neighborRoot plainStatements) (neighborRoot hidingStatements) ∧
      (∀ node ∈ (neighborRoot plainStatements).preorder,
        node.hasChildOf .globalStatement = true → node.kind = .compilationUnit) ∧
      List.Forall₂ (fun here there => here.address = there.address ∧ ∀ role,
        (Model.ofTree sampleScanner.catalog (neighborRoot plainStatements)).symbolAt role here =
          (Model.ofTree sampleScanner.catalog (neighborRoot hidingStatements)).symbolAt role there)
        ((neighborRoot plainStatements).sitesOutside [0, 1, 1])
        ((neighborRoot hidingStatements).sitesOutside [0, 1, 1]) ∧
      boundCalls (neighborRoot hidingStatements) =
        [none, some (.method ⟨"Read", some { space := "Sample", name := "Counter" }, true⟩)] := by
  have statements : ∀ node ∈ (neighborRoot plainStatements).preorder,
      node.hasChildOf .globalStatement = true → node.kind = .compilationUnit := by
    decide +kernel
  refine ⟨bodyEdited_neighborRoot, statements, ?_, by decide +kernel⟩
  exact body_edit_confined sampleScanner.catalog bodyEdited_neighborRoot statements

end WinrtLint.Source
