import Mathlib.Data.List.Chain
import WinrtLint.Proofs.Source.Names
import WinrtLint.Proofs.Source.ScanOrder

/-!
# Values hide types

A receiver whose first identifier names a value that is visible at a call does
not bind to a type.  Which values are visible is told here by the shape of the
unit: what a node introduces (`Tree.Introduces`), what a type declares for its
members (`Tree.DeclaresValue`), and which nodes share a scope with a site
(`Site.Shares`).  The names that are gathered for a site are exactly those
(`Site.mem_valueNames`).

Locals are shared inside a member declaration or among the top-level statements
of a unit.  A lambda expression is no scope of its own: its parameters are seen
where such a scope stands around it, and nowhere else.
-/

namespace WinrtLint.Source

namespace Tree

/-! ## What a node introduces -/

/-- A node is an identifier that spells a name, or designates one. -/
inductive Designates : Tree → String → Prop
  | identifier {tree : Tree} (isIdentifier : tree.kind = .identifier) :
      Designates tree (DottedName.withoutVerbatim tree.text)
  | designation
      {tree part : Tree}
      (isDesignation : tree.kind = .singleDesignation)
      (held : tree.namedChildOf? .identifier = some part) :
      Designates tree (DottedName.withoutVerbatim part.text)

theorem identifierName?_eq_some {tree : Tree} {name : String} :
    tree.identifierName? = some name ↔ tree.Designates name := by
  constructor
  · intro found
    rw [identifierName?] at found
    split at found
    · rename_i isIdentifier
      cases found
      exact .identifier isIdentifier
    · rename_i isDesignation
      rcases Option.map_eq_some_iff.1 found with ⟨part, held, rfl⟩
      exact .designation isDesignation held
    · cases found
  · rintro (isIdentifier | ⟨isDesignation, held⟩)
    · simp [identifierName?, isIdentifier]
    · simp [identifierName?, isDesignation, held]

/-- A node is the parameter, local, pattern, loop, catch or lambda variable of a name. -/
inductive Introduces : Tree → String → Prop
  | named
      {tree part : Tree}
      {name : String}
      (isNamed : tree.kind = .parameter ∨ tree.kind = .catchDeclaration ∨
        tree.kind = .declarationExpression)
      (held : tree.childIn? .name = some part)
      (spelled : part.Designates name) :
      Introduces tree name
  | declarator
      {tree part : Tree}
      {name : String}
      (isDeclarator : tree.kind = .variableDeclarator)
      (held : tree.declaratorName? = some part)
      (spelled : part.Designates name) :
      Introduces tree name
  | loop
      {tree part : Tree}
      {name : String}
      (isLoop : tree.kind = .foreachStatement)
      (held : tree.loopVariable? = some part)
      (spelled : part.Designates name) :
      Introduces tree name
  | pattern
      {tree part : Tree}
      {name : String}
      (isPattern : tree.kind = .declarationPattern)
      (held : (tree.childIn? .name).or (tree.childIn? .designation) = some part)
      (spelled : part.Designates name) :
      Introduces tree name
  | lambda
      {tree part : Tree}
      {name : String}
      (isLambda : tree.kind = .lambda)
      (held : tree.childIn? .parameters = some part)
      (spelled : part.Designates name) :
      Introduces tree name
  | designation
      {tree : Tree}
      {name : String}
      (isDesignation : tree.kind = .singleDesignation)
      (spelled : tree.Designates name) :
      Introduces tree name
  | implicitParameter
      {tree : Tree}
      (isImplicit : tree.kind = .implicitParameter) :
      Introduces tree (DottedName.withoutVerbatim tree.text)

theorem exists_of_bind_identifierName? {found : Option Tree} {name : String} :
    found.bind identifierName? = some name ↔ ∃ part, found = some part ∧ part.Designates name := by
  simp only [Option.bind_eq_some_iff, identifierName?_eq_some]

theorem valueName?_eq_some {tree : Tree} {name : String} :
    tree.valueName? = some name ↔ tree.Introduces name := by
  constructor
  · intro found
    rw [valueName?] at found
    split at found
    case h_8 isDesignation => exact .designation isDesignation (identifierName?_eq_some.1 found)
    case h_9 isImplicit => cases found; exact .implicitParameter isImplicit
    case h_10 => cases found
    all_goals rcases exists_of_bind_identifierName?.1 found with ⟨part, held, spelled⟩
    case h_1 isParameter => exact .named (Or.inl isParameter) held spelled
    case h_2 isCatch => exact .named (Or.inr (Or.inl isCatch)) held spelled
    case h_3 isExpression => exact .named (Or.inr (Or.inr isExpression)) held spelled
    case h_4 isDeclarator => exact .declarator isDeclarator held spelled
    case h_5 isLoop => exact .loop isLoop held spelled
    case h_6 isPattern => exact .pattern isPattern held spelled
    case h_7 isLambda => exact .lambda isLambda held spelled
  · intro introduced
    rw [valueName?]
    cases introduced with
    | named isNamed held spelled =>
        rcases isNamed with isNamed | isNamed | isNamed <;> rw [isNamed] <;>
          exact exists_of_bind_identifierName?.2 ⟨_, held, spelled⟩
    | declarator isDeclarator held spelled =>
        rw [isDeclarator]
        exact exists_of_bind_identifierName?.2 ⟨_, held, spelled⟩
    | loop isLoop held spelled =>
        rw [isLoop]
        exact exists_of_bind_identifierName?.2 ⟨_, held, spelled⟩
    | pattern isPattern held spelled =>
        rw [isPattern]
        exact exists_of_bind_identifierName?.2 ⟨_, held, spelled⟩
    | lambda isLambda held spelled =>
        rw [isLambda]
        exact exists_of_bind_identifierName?.2 ⟨_, held, spelled⟩
    | designation isDesignation spelled =>
        rw [isDesignation]
        exact identifierName?_eq_some.2 spelled
    | implicitParameter isImplicit => rw [isImplicit]

theorem mem_valueNames {trees : List Tree} {name : String} :
    name ∈ valueNames trees ↔ name ≠ "" ∧ ∃ tree ∈ trees, tree.Introduces name := by
  simp only [valueNames, List.mem_filter, List.mem_filterMap, valueName?_eq_some,
    decide_eq_true_eq]
  exact and_comm

/-! ## What a type declares -/

/-- A member of a type's body is a field, property or event of a name. -/
inductive DeclaresMember (member : Tree) (name : String) : Prop
  | field
      {declaration declarator : Tree}
      (isField : member.kind = .fieldDeclaration ∨ member.kind = .eventFieldDeclaration)
      (declared : declaration ∈ member.namedChildren)
      (isDeclaration : declaration.kind = .variableDeclaration)
      (listed : declarator ∈ declaration.namedChildren)
      (introduced : declarator.Introduces name)
  | property
      {part : Tree}
      (isProperty : member.kind = .memberDeclaration .property ∨
        member.kind = .memberDeclaration .event)
      (held : member.childIn? .name = some part)
      (spelled : part.Designates name)

theorem mem_memberValueNames {member : Tree} {name : String} :
    name ∈ member.memberValueNames ↔ name ≠ "" ∧ member.DeclaresMember name := by
  have declared : (name ∈ member.namedChildren.flatMap fun declaration =>
      if declaration.kind = .variableDeclaration then valueNames declaration.namedChildren
      else []) ↔
        name ≠ "" ∧ ∃ declaration ∈ member.namedChildren,
          declaration.kind = .variableDeclaration ∧
            ∃ declarator ∈ declaration.namedChildren, declarator.Introduces name := by
    rw [List.mem_flatMap]
    constructor
    · rintro ⟨declaration, among, listed⟩
      split at listed
      · rename_i isDeclaration
        rcases mem_valueNames.1 listed with ⟨nonempty, found⟩
        exact ⟨nonempty, declaration, among, isDeclaration, found⟩
      · cases listed
    · rintro ⟨nonempty, declaration, among, isDeclaration, found⟩
      refine ⟨declaration, among, ?_⟩
      rw [if_pos isDeclaration]
      exact mem_valueNames.2 ⟨nonempty, found⟩
  have named : (name ∈ ((member.childIn? .name).bind identifierName?).toList.filter (· ≠ "")) ↔
      name ≠ "" ∧ ∃ part, member.childIn? .name = some part ∧ part.Designates name := by
    rw [List.mem_filter, Option.mem_toList, exists_of_bind_identifierName?,
      decide_eq_true_eq]
    exact and_comm
  rw [memberValueNames]
  constructor
  · intro listed
    split at listed
    case h_1 isField =>
      rcases declared.1 listed with ⟨nonempty, _, among, isDeclaration, _, inside, introduced⟩
      exact ⟨nonempty, .field (Or.inl isField) among isDeclaration inside introduced⟩
    case h_2 isField =>
      rcases declared.1 listed with ⟨nonempty, _, among, isDeclaration, _, inside, introduced⟩
      exact ⟨nonempty, .field (Or.inr isField) among isDeclaration inside introduced⟩
    case h_3 isProperty =>
      rcases named.1 listed with ⟨nonempty, _, held, spelled⟩
      exact ⟨nonempty, .property (Or.inl isProperty) held spelled⟩
    case h_4 isProperty =>
      rcases named.1 listed with ⟨nonempty, _, held, spelled⟩
      exact ⟨nonempty, .property (Or.inr isProperty) held spelled⟩
    case h_5 => cases listed
  · rintro ⟨nonempty, ⟨isField, among, isDeclaration, inside, introduced⟩ |
      ⟨isProperty, held, spelled⟩⟩
    · rcases isField with isField | isField <;> rw [isField] <;>
        exact declared.2 ⟨nonempty, _, among, isDeclaration, _, inside, introduced⟩
    · rcases isProperty with isProperty | isProperty <;> rw [isProperty] <;>
        exact named.2 ⟨nonempty, _, held, spelled⟩

/-- A type declaration has a primary parameter, field, property or event of a name. -/
inductive DeclaresValue (type : Tree) (name : String) : Prop
  | primary
      {parameters parameter : Tree}
      (listed : parameters ∈ type.children)
      (isList : parameters.kind = .parameterList)
      (among : parameter ∈ parameters.namedChildren)
      (introduced : parameter.Introduces name)
  | member
      {body member : Tree}
      (held : type.childIn? .body = some body)
      (among : member ∈ body.namedChildren)
      (declared : member.DeclaresMember name)

theorem mem_typeValueNames {type : Tree} {name : String} :
    name ∈ type.typeValueNames ↔ name ≠ "" ∧ type.DeclaresValue name := by
  rw [typeValueNames, List.mem_append, List.mem_flatMap]
  constructor
  · rintro (⟨parameters, listed, primary⟩ | declared)
    · split at primary
      · rename_i isList
        rcases mem_valueNames.1 primary with ⟨nonempty, parameter, among, introduced⟩
        exact ⟨nonempty, .primary listed isList among introduced⟩
      · cases primary
    · split at declared
      · cases declared
      · rename_i body held
        rcases List.mem_flatMap.1 declared with ⟨member, among, found⟩
        rcases mem_memberValueNames.1 found with ⟨nonempty, declares⟩
        exact ⟨nonempty, .member held among declares⟩
  · rintro ⟨nonempty, ⟨listed, isList, among, introduced⟩ | ⟨held, among, declares⟩⟩
    · refine Or.inl ⟨_, listed, ?_⟩
      rw [if_pos isList]
      exact mem_valueNames.2 ⟨nonempty, _, among, introduced⟩
    · right
      rw [held]
      exact List.mem_flatMap.2 ⟨_, among, mem_memberValueNames.2 ⟨nonempty, declares⟩⟩

/-! ## What a scope holds -/

/-- The nodes whose declarations a scope gathers: those of the top-level statements of a unit, and
all nodes of any other scope. -/
def Gathers (scope node : Tree) : Prop :=
  if scope.kind = .compilationUnit then
    ∃ statement ∈ scope.children, statement.kind = .globalStatement ∧ node ∈ statement.preorder
  else node ∈ scope.preorder

theorem mem_localNames {scope : Tree} {name : String} :
    name ∈ scope.localNames ↔
      name ≠ "" ∧ ∃ node, scope.Gathers node ∧ node.Introduces name := by
  rw [localNames, NameSet.mem_ofList, mem_valueNames]
  apply and_congr_right
  intro _
  apply exists_congr
  intro node
  apply and_congr_left
  intro _
  by_cases isUnit : scope.kind = .compilationUnit
  · simp [Gathers, isUnit, List.mem_flatMap, and_assoc]
  · simp [Gathers, isUnit]

/-- A top-level statement is gathered by whatever holds it. -/
theorem gathers_of_statement
    {holder statement node : Tree}
    (below : statement ∈ holder.children)
    (isStatement : statement.kind = .globalStatement)
    (inside : node ∈ statement.preorder) :
    holder.Gathers node := by
  rw [Gathers]
  split
  · exact ⟨statement, below, isStatement, inside⟩
  · exact mem_preorder_of_mem_children below inside

end Tree

/-! ## Scopes around a site -/

/-- Whether locals below a node are shared: in a member declaration or a top-level statement. -/
def Kind.opensScope (kind : Kind) : Bool :=
  kind.isMemberScope || kind = .globalStatement

/-- Nodes that open no scope are passed by. -/
theorem localScope?_skip
    {inner outer : List Tree}
    {opener : Tree}
    {address : List Nat}
    (closed : ∀ tree ∈ inner, tree.kind.opensScope = false)
    (aligned : address.length = (inner ++ opener :: outer).length) :
    ∃ position rest, localScope? address (inner ++ opener :: outer) =
      localScope? (position :: rest) (opener :: outer) := by
  induction inner generalizing address with
  | nil =>
      cases address with
      | nil => cases aligned
      | cons position rest => exact ⟨position, rest, rfl⟩
  | cons tree inner induction =>
      cases address with
      | nil => cases aligned
      | cons position address =>
          have here := closed tree List.mem_cons_self
          rw [Kind.opensScope, Bool.or_eq_false_iff, decide_eq_false_iff_not] at here
          simp only [List.cons_append, localScope?, here.1, here.2, if_false, Bool.false_eq_true]
          apply induction
          · exact fun other member => closed other (List.mem_cons_of_mem _ member)
          · exact Nat.succ.inj aligned

/-- The scope that is found stands behind the innermost node that opens one. -/
theorem opener_of_localScope?
    {address : List Nat}
    {ancestors : List Tree}
    {scope : Scope}
    (found : localScope? address ancestors = .ok (some scope)) :
    ∃ inner opener outer, ancestors = inner ++ opener :: outer ∧
      (∀ tree ∈ inner, tree.kind.opensScope = false) ∧
      (opener.kind.isMemberScope = true ∧ scope.node = opener ∨
        opener.kind = .globalStatement ∧ ∃ above, outer = scope.node :: above) := by
  fun_induction localScope? address ancestors with
  | case1 position address ancestor above isMember =>
      cases found
      exact ⟨[], ancestor, above, rfl, by simp, Or.inl ⟨isMember, rfl⟩⟩
  | case2 => cases found
  | case3 position address ancestor isMember isStatement holder above =>
      cases found
      exact ⟨[], ancestor, holder :: above, rfl, by simp, Or.inr ⟨isStatement, above, rfl⟩⟩
  | case4 position address ancestor above notMember notStatement induction =>
      rcases induction found with ⟨inner, opener, outer, path, closed, opens⟩
      refine ⟨ancestor :: inner, opener, outer, congrArg (ancestor :: ·) path, ?_, opens⟩
      intro tree member
      rcases List.mem_cons.1 member with rfl | later
      · simp [Kind.opensScope, notMember, notStatement]
      · exact closed tree later
  | case5 => cases found

theorem exists_innermost
    {trees : List Tree}
    (around : ∃ tree ∈ trees, tree.kind.opensScope = true) :
    ∃ inner opener outer, trees = inner ++ opener :: outer ∧
      (∀ tree ∈ inner, tree.kind.opensScope = false) ∧ opener.kind.opensScope = true := by
  cases found : trees.find? (·.kind.opensScope) with
  | none =>
      rcases around with ⟨tree, member, opens⟩
      exact absurd opens (List.find?_eq_none.1 found tree member)
  | some opener =>
      rcases List.find?_eq_some_iff_append.1 found with ⟨opens, inner, outer, path, closed⟩
      refine ⟨inner, opener, outer, path, ?_, opens⟩
      intro tree member
      simpa using closed tree member

namespace Site

/-- A node shares the locals of a site: both stand in the member declaration that is innermost
around the site, or the site stands in a top-level statement and the node beside it. -/
inductive Shares (site : Site) (node : Tree) : Prop
  | member
      {inner outer : List Tree}
      {member : Tree}
      (way : site.ancestors = inner ++ member :: outer)
      (innermost : ∀ tree ∈ inner, tree.kind.opensScope = false)
      (isMember : member.kind.isMemberScope = true)
      (inside : node ∈ member.preorder)
  | statement
      {inner outer : List Tree}
      {statement holder : Tree}
      (way : site.ancestors = inner ++ statement :: holder :: outer)
      (innermost : ∀ tree ∈ inner, tree.kind.opensScope = false)
      (isStatement : statement.kind = .globalStatement)
      (beside : holder.Gathers node)

theorem ne_compilationUnit
    {kind : Kind}
    (isMember : kind.isMemberScope = true) :
    kind ≠ .compilationUnit := by
  rintro rfl
  cases isMember

theorem exists_local_iff
    {site : Site}
    {name : String}
    (aligned : site.address.length = site.ancestors.length) :
    (∃ scope, site.localScope? = .ok (some scope) ∧ name ∈ scope.node.localNames) ↔
      name ≠ "" ∧ ∃ node, site.Shares node ∧ node.Introduces name := by
  constructor
  · rintro ⟨scope, found, listed⟩
    rcases Tree.mem_localNames.1 listed with ⟨nonempty, node, gathered, introduced⟩
    refine ⟨nonempty, node, ?_, introduced⟩
    rcases opener_of_localScope? found with
      ⟨inner, opener, outer, way, innermost, ⟨isMember, rfl⟩ | ⟨isStatement, above, rfl⟩⟩
    · rw [Tree.Gathers, if_neg (ne_compilationUnit isMember)] at gathered
      exact .member way innermost isMember gathered
    · exact .statement way innermost isStatement gathered
  · rintro ⟨nonempty, node, shared, introduced⟩
    rw [localScope?]
    cases shared with
    | @member inner outer member way innermost isMember inside =>
        rw [way] at aligned ⊢
        rcases localScope?_skip innermost aligned with ⟨position, rest, skipped⟩
        refine ⟨⟨member, rest⟩, ?_, ?_⟩
        · rw [skipped]
          simp [Source.localScope?, isMember]
        · apply Tree.mem_localNames.2
          refine ⟨nonempty, node, ?_, introduced⟩
          rw [Tree.Gathers, if_neg (ne_compilationUnit isMember)]
          exact inside
    | @statement inner outer statement holder way innermost isStatement beside =>
        rw [way] at aligned ⊢
        rcases localScope?_skip innermost aligned with ⟨position, rest, skipped⟩
        refine ⟨⟨holder, rest.tail⟩, ?_, ?_⟩
        · rw [skipped]
          simp [Source.localScope?, isStatement, Kind.isMemberScope]
        · exact Tree.mem_localNames.2 ⟨nonempty, node, beside, introduced⟩

/-- A value of a name is visible at a site. -/
inductive Sees (site : Site) (name : String) : Prop
  | ofScope
      {node : Tree}
      (shared : site.Shares node)
      (introduced : node.Introduces name)
  | ofLambda
      {inner outer : List Tree}
      {lambda scope node : Tree}
      (way : site.ancestors = inner ++ lambda :: outer)
      (innermost : ∀ tree ∈ inner, tree.kind.opensScope = false)
      (isLambda : lambda.kind = .lambda)
      (around : scope ∈ outer)
      (opens : scope.kind.opensScope = true)
      (inside : node ∈ lambda.preorder)
      (introduced : node.Introduces name)
  | ofType
      {type : Tree}
      (around : type ∈ site.ancestors)
      (declares : type.kind.declaresType = true)
      (declared : type.DeclaresValue name)

/-- What stands in a lambda expression around a site shares its locals, if the scope around the
expression can be told. -/
theorem shares_of_lambda
    {root lambda node : Tree}
    {site : Site}
    {inner outer : List Tree}
    {scope : Option Scope}
    (inside : site ∈ root.sites)
    (found : site.localScope? = .ok scope)
    (way : site.ancestors = inner ++ lambda :: outer)
    (innermost : ∀ tree ∈ inner, tree.kind.opensScope = false)
    (isLambda : lambda.kind = .lambda)
    (around : ∃ tree ∈ outer, tree.kind.opensScope = true)
    (below : node ∈ lambda.preorder) :
    site.Shares node := by
  rcases exists_innermost around with ⟨between, opener, above, rfl, closed, opens⟩
  have wayUp : Tree.IsWayUp (lambda :: (between ++ opener :: above)) := by
    have whole := Tree.isWayUp_of_mem_sites inside
    rw [way, ← List.cons_append] at whole
    exact List.IsChain.right_of_append whole
  have inOpener : node ∈ opener.preorder :=
    Tree.mem_preorder_of_isWayUp wayUp (by simp) below
  -- The lambda expression opens no scope, so the innermost one is that of the opener.
  have longer : site.ancestors = (inner ++ lambda :: between) ++ opener :: above := by
    rw [way, List.append_assoc, List.cons_append]
  have allClosed : ∀ tree ∈ inner ++ lambda :: between, tree.kind.opensScope = false := by
    intro tree member
    rcases List.mem_append.1 member with early | late
    · exact innermost tree early
    · rcases List.mem_cons.1 late with rfl | later
      · rw [isLambda]
        rfl
      · exact closed tree later
  rw [Kind.opensScope, Bool.or_eq_true, decide_eq_true_eq] at opens
  rcases opens with isMember | isStatement
  · exact .member longer allClosed isMember inOpener
  · cases above with
    | nil =>
        have aligned := Tree.length_address_of_mem_sites inside
        rw [longer] at aligned
        rcases localScope?_skip allClosed aligned with ⟨position, rest, skipped⟩
        rw [localScope?, longer, skipped] at found
        simp [Source.localScope?, isStatement, Kind.isMemberScope] at found
    | cons holder above =>
        have held : opener ∈ holder.children := by
          rw [← List.cons_append] at wayUp
          exact (List.isChain_cons_cons.1 (List.IsChain.right_of_append wayUp)).1
        exact .statement longer allClosed isStatement
          (Tree.gathers_of_statement held isStatement inOpener)

theorem mem_memberNames {site : Site} {name : String} :
    name ∈ site.memberNames ↔
      name ≠ "" ∧ ∃ type ∈ site.ancestors, type.kind.declaresType = true ∧
        type.DeclaresValue name := by
  rw [memberNames, NameSet.mem_ofList, List.mem_flatMap]
  constructor
  · rintro ⟨type, member, listed⟩
    rcases List.mem_filter.1 member with ⟨around, declares⟩
    rcases Tree.mem_typeValueNames.1 listed with ⟨nonempty, declared⟩
    exact ⟨nonempty, type, around, declares, declared⟩
  · rintro ⟨nonempty, type, around, declares, declared⟩
    exact ⟨type, List.mem_filter.2 ⟨around, declares⟩,
      Tree.mem_typeValueNames.2 ⟨nonempty, declared⟩⟩

/-- The names that are gathered for a site are those of the values that are visible there. -/
theorem mem_valueNames
    {root : Tree}
    {site : Site}
    {values : NameSet}
    {name : String}
    (inside : site ∈ root.sites)
    (gathered : site.valueNames = .ok values) :
    name ∈ values ↔ name ≠ "" ∧ site.Sees name := by
  have aligned := Tree.length_address_of_mem_sites inside
  rw [valueNames] at gathered
  cases found : site.localScope? with
  | error failure =>
      rw [found] at gathered
      cases gathered
  | ok scope =>
      have parts : name ∈ values ↔ name ∈ site.memberNames ∨
          ∃ inner, site.localScope? = .ok (some inner) ∧ name ∈ inner.node.localNames := by
        rw [found] at gathered ⊢
        cases scope <;> cases gathered <;> simp
      rw [parts, mem_memberNames, exists_local_iff aligned]
      constructor
      · rintro (⟨nonempty, type, around, declares, declared⟩ | ⟨nonempty, node, shared, introduced⟩)
        · exact ⟨nonempty, .ofType around declares declared⟩
        · exact ⟨nonempty, .ofScope shared introduced⟩
      · rintro ⟨nonempty, seen⟩
        cases seen with
        | ofScope shared introduced => exact Or.inr ⟨nonempty, _, shared, introduced⟩
        | ofLambda way innermost isLambda around opens below introduced =>
            have shared :=
              shares_of_lambda inside found way innermost isLambda ⟨_, around, opens⟩ below
            exact Or.inr ⟨nonempty, _, shared, introduced⟩
        | ofType around declares declared => exact Or.inl ⟨nonempty, _, around, declares, declared⟩

end Site

/-! ## Calls through a value -/

namespace Model

variable {model : Model} {root receiver : Tree} {site : Site}

/-- A call through a receiver that begins with a visible value does not bind. -/
theorem invocationSymbol_of_sees
    (inside : site ∈ root.sites)
    (access : site.node.kind = .memberAccess)
    (receiving : site.node.childIn? .expression = some receiver)
    (unmarked : DottedName.beginsGlobal receiver.text = false)
    (seen : site.Sees (DottedName.leading receiver.text)) :
    model.invocationSymbol site = .ok none ∨
      root.kind = .globalStatement ∧
        model.invocationSymbol site = .error .statementOutsideUnit := by
  cases named : (site.node.childIn? .name).bind Tree.simpleName? with
  | none =>
      left
      rw [invocationSymbol, invocationSymbolWith, if_pos access, receiving, named]
      rfl
  | some method =>
      rw [invocationSymbol_access access receiving named, valueCandidate?, unmarked,
        if_neg Bool.false_ne_true]
      cases spelled : DottedName.ofText? receiver.text with
      | none =>
          left
          simp [accessedMethod, resolve, spelled]
      | some name =>
          have nonempty := DottedName.head_ne_empty spelled
          rw [DottedName.head_eq_leading spelled] at nonempty
          rw [Option.map_some, DottedName.head_eq_leading spelled]
          cases outcome : site.valueNames with
          | error failure =>
              rcases Site.valueNames_eq_error_of_mem_sites inside outcome with ⟨rfl, isStatement⟩
              exact Or.inr ⟨isStatement, rfl⟩
          | ok values =>
              left
              have listed : values.contains (DottedName.leading receiver.text) = true :=
                NameSet.contains_iff.2
                  ((Site.mem_valueNames inside outcome).2 ⟨nonempty, seen⟩)
              simp [Except.map, listed]

/-- A call through a receiver that begins with no visible value binds as one through a type. -/
theorem invocationSymbol_of_not_sees
    (inside : site ∈ root.sites)
    (rooted : root.kind ≠ .globalStatement)
    (access : site.node.kind = .memberAccess)
    (receiving : site.node.childIn? .expression = some receiver)
    {method : String}
    (named : (site.node.childIn? .name).bind Tree.simpleName? = some method)
    (unseen : ¬ site.Sees (DottedName.leading receiver.text)) :
    model.invocationSymbol site =
      .ok (model.accessedMethod receiver.text method site.ancestors) := by
  rw [invocationSymbol_access access receiving named]
  cases candidate : valueCandidate? receiver.text with
  | none => rfl
  | some head =>
      cases outcome : site.valueNames with
      | error failure =>
          exact absurd (Site.valueNames_eq_error_of_mem_sites inside outcome).2 rooted
      | ok values =>
          have same : head = DottedName.leading receiver.text := by
            rw [valueCandidate?] at candidate
            split at candidate
            · cases candidate
            · rcases Option.map_eq_some_iff.1 candidate with ⟨name, spelled, rfl⟩
              exact DottedName.head_eq_leading spelled
          have absent : head ∉ values := by
            intro member
            rw [same] at member
            exact unseen ((Site.mem_valueNames inside outcome).1 member).2
          rw [← NameSet.contains_iff] at absent
          simp [Except.map, absent]

end Model

/-- The target of a flagged call is bound. -/
theorem Scanner.symbolAt_of_flags
    {scanner : Scanner}
    {path : String}
    {root : Tree}
    {site access : Site}
    (invocation : site.node.kind = .invocation)
    (target : site.childIn? .function = some access)
    (flagged : scanner.Flags path root site) :
    ∃ symbol, (Model.ofTree scanner.catalog root).symbolAt (some .expression) access =
      .ok (some symbol) := by
  rcases flagged with ⟨-, -, name, category, ofKind, -, matched⟩
  have isCall : category = .invocation := by
    change Family.csharp.category? (site.node.kind.hostKind?.getD "") = some category at ofKind
    rw [invocation] at ofKind
    cases ofKind
    rfl
  have invoked : Family.csharp.invocationTarget (scanner.host path root) ⟨site, none⟩ =
      some ⟨access, some .expression⟩ := by
    show ((site.childIn? .function).map fun below => (⟨below, some .expression⟩ : HostSite)) = _
    rw [target]
    rfl
  rw [isCall] at matched
  rcases Analyzer.symbol_of_matches invoked matched with ⟨symbol, answered⟩
  change (Model.ofTree scanner.catalog root).answer ⟨access, some .expression⟩ = _ at answered
  rw [Model.answer] at answered
  cases outcome : (Model.ofTree scanner.catalog root).symbolAt (some .expression) access with
  | error failure =>
      rw [outcome] at answered
      cases answered
  | ok found =>
      cases found with
      | none =>
          rw [outcome] at answered
          cases answered
      | some bound => exact ⟨bound, rfl⟩

/--
A call through a receiver whose first identifier is a visible value does not
bind and is not flagged, except that binding may break down where the root of
the unit is a top-level statement.  No other call is held back: one whose first
identifier is no visible value binds as a call through a type.
-/
theorem Scanner.visible_value_hides_type
    (scanner : Scanner)
    (path : String)
    {root receiver : Tree}
    {site access : Site}
    (inside : site ∈ root.sites)
    (invocation : site.node.kind = .invocation)
    (target : site.childIn? .function = some access)
    (isAccess : access.node.kind = .memberAccess)
    (receiving : access.node.childIn? .expression = some receiver)
    (unmarked : DottedName.beginsGlobal receiver.text = false) :
    (access.Sees (DottedName.leading receiver.text) →
      ((Model.ofTree scanner.catalog root).symbolAt (some .expression) access = .ok none ∨
        root.kind = .globalStatement ∧
          (Model.ofTree scanner.catalog root).symbolAt (some .expression) access =
            .error .statementOutsideUnit) ∧
      ¬ scanner.Flags path root site) ∧
    (¬ access.Sees (DottedName.leading receiver.text) → root.kind ≠ .globalStatement →
      ∀ method, (access.node.childIn? .name).bind Tree.simpleName? = some method →
        (Model.ofTree scanner.catalog root).symbolAt (some .expression) access =
          .ok (((Model.ofTree scanner.catalog root).accessedMethod receiver.text method
            access.ancestors).map Symbol.method)) := by
  have accessInside : access ∈ root.sites := Tree.mem_sites_of_childIn? inside target
  constructor
  · intro seen
    have unbound : (Model.ofTree scanner.catalog root).symbolAt (some .expression) access =
          .ok none ∨
        root.kind = .globalStatement ∧
          (Model.ofTree scanner.catalog root).symbolAt (some .expression) access =
            .error .statementOutsideUnit := by
      rw [Model.symbolAt, if_pos rfl]
      rcases Model.invocationSymbol_of_sees accessInside isAccess receiving unmarked seen with
        absent | ⟨isStatement, failed⟩
      · rw [absent]
        exact Or.inl rfl
      · rw [failed]
        exact Or.inr ⟨isStatement, rfl⟩
    refine ⟨unbound, ?_⟩
    intro flagged
    rcases symbolAt_of_flags invocation target flagged with ⟨symbol, bound⟩
    rcases unbound with absent | ⟨-, failed⟩
    · rw [absent] at bound
      cases bound
    · rw [failed] at bound
      cases bound
  · intro unseen rooted method named
    rw [Model.symbolAt, if_pos rfl,
      Model.invocationSymbol_of_not_sees accessInside rooted isAccess receiving named unseen]
    rfl

/-! ## Sample units -/

namespace Sample

/-- A node that is a word of the source. -/
def word (kind : Kind) (field : Option Field) (text : String) : Tree :=
  .node { kind, field, text := .pure text } []

/-- A node over others. -/
def phrase (kind : Kind) (field : Option Field) (children : List Tree) : Tree :=
  .node { kind, field } children

/-- A directive that opens a namespace. -/
def opening (space : String) : Tree :=
  phrase .usingDirective none [word .identifier none space]

/-- A class with members. -/
def classOf (name : String) (members : List Tree) : Tree :=
  phrase (.typeDeclaration .classForm) none
    [word .identifier (some .name) name, phrase (.other "declaration_list") (some .body) members]

/-- A method with its parameters and its body. -/
def methodOf (name : String) (parameters : List Tree) (body : List Tree) :
    Tree :=
  phrase (.memberDeclaration .method) none
    [word .identifier (some .name) name, phrase .parameterList (some .parameters) parameters,
      phrase (.other "block") (some .body) body]

/-- A call of a method through a receiver. -/
def callThrough (receiver method : String) : Tree :=
  phrase .invocation none
    [phrase .memberAccess (some .function)
      [word .identifier (some .expression) receiver, word .identifier (some .name) method]]

/-- A method that calls through its parameter, which is named like a listed type. -/
def parameterRoot : Tree :=
  phrase .compilationUnit none
    [opening "Sample",
      classOf "Owner"
        [methodOf "Run" [phrase .parameter none [word .identifier (some .name) "Counter"]]
          [callThrough "Counter" "Read"]]]

/-- A field whose initial value is a lambda expression that calls through its parameter. -/
def fieldLambdaRoot : Tree :=
  phrase .compilationUnit none
    [opening "Sample",
      classOf "Owner"
        [phrase .fieldDeclaration none
          [phrase .variableDeclaration none
            [word .identifier (some .type) "Reader",
              phrase .variableDeclarator none
                [word .identifier (some .name) "read",
                  phrase .lambda none
                    [word .implicitParameter (some .parameters) "Counter",
                      callThrough "Counter" "Read"]]]]]]

end Sample

open Sample

theorem Scanner.visible_value_hides_type_parameterRoot :
    ∃ site ∈ parameterRoot.sites, ∃ access, site.childIn? .function = some access ∧
      access.Sees "Counter" ∧
      (Model.ofTree sampleScanner.catalog parameterRoot).symbolAt (some .expression) access =
        .ok none ∧
      ¬ sampleScanner.Flags "Sample.cs" parameterRoot site := by
  let site := parameterRoot.sites.get ⟨12, by decide +kernel⟩
  let access := (site.childIn? .function).get (by decide +kernel)
  have target : site.childIn? .function = some access := (Option.some_get _).symm
  let receiver := (access.node.childIn? .expression).get (by decide +kernel)
  have receiving : access.node.childIn? .expression = some receiver := (Option.some_get _).symm
  have inside : site ∈ parameterRoot.sites := List.get_mem _ _
  have seen : access.Sees "Counter" := by
    cases outcome : access.valueNames with
    | error failure =>
        have gathered : access.valueNames.toOption.isSome = true := by decide +kernel
        rw [outcome] at gathered
        cases gathered
    | ok values =>
        have gathered : access.valueNames.toOption.map (·.contains "Counter") = some true := by
          decide +kernel
        rw [outcome] at gathered
        have listed : "Counter" ∈ values := by simpa [Except.toOption] using gathered
        have accessInside := Tree.mem_sites_of_childIn? inside target
        exact ((Site.mem_valueNames accessInside outcome).1 listed).2
  have first : DottedName.leading receiver.text = "Counter" := by decide +kernel
  have hidden := (visible_value_hides_type sampleScanner "Sample.cs" inside (by decide +kernel)
    target (by decide +kernel) receiving (by decide +kernel)).1 (first ▸ seen)
  refine ⟨site, inside, access, target, seen, ?_, hidden.2⟩
  rcases hidden.1 with absent | ⟨isStatement, -⟩
  · exact absent
  · exact absurd isStatement (by decide +kernel)

/-- The parameter of a lambda expression in a field is not seen, and the call through it is
taken for one of the listed type. -/
theorem Scanner.field_lambda_flagged :
    ∃ site ∈ fieldLambdaRoot.sites, site.node.kind = .invocation ∧
      ∃ access, site.childIn? .function = some access ∧ access.node.kind = .memberAccess ∧
      (∃ receiver, access.node.childIn? .expression = some receiver ∧ receiver.text = "Counter") ∧
      (∃ lambda ∈ access.ancestors, lambda.kind = .lambda ∧
        ∃ parameter ∈ lambda.children, parameter.Introduces "Counter") ∧
      ((Model.ofTree sampleScanner.catalog fieldLambdaRoot).symbolAt (some .expression)
          access).toOption =
        some (some (.method ⟨"Read", some { space := "Sample", name := "Counter" }, true⟩)) := by
  let site := fieldLambdaRoot.sites.get ⟨13, by decide +kernel⟩
  let access := (site.childIn? .function).get (by decide +kernel)
  let receiver := (access.node.childIn? .expression).get (by decide +kernel)
  let lambda := access.ancestors.get ⟨1, by decide +kernel⟩
  let parameter := lambda.children.get ⟨0, by decide +kernel⟩
  have introduced : parameter.Introduces "Counter" := by
    have spelled : DottedName.withoutVerbatim parameter.text = "Counter" := by decide +kernel
    rw [← spelled]
    exact .implicitParameter (by decide +kernel)
  refine ⟨site, List.get_mem _ _, by decide +kernel, access, (Option.some_get _).symm,
    by decide +kernel, ⟨receiver, (Option.some_get _).symm, by decide +kernel⟩,
    ⟨lambda, List.get_mem _ _, by decide +kernel, parameter, List.get_mem _ _, introduced⟩, ?_⟩
  decide +kernel

end WinrtLint.Source
