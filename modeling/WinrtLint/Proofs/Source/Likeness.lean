import WinrtLint.Proofs.Pairs
import WinrtLint.Proofs.Source.Surroundings

/-!
# Units that read alike

Binding reads the kinds and fields of nodes throughout, but the texts of few of
them, and hardly any text as it stands: most are read as plain names, so that
blanks and verbatim marks do not count (`ReadsAlike`).

A likeness relates trees that read alike, and with two trees the trees directly
below them, the parts of a method apart, which nothing reads from outside the
method.  Related trees have the same modifiers and declare the same values,
static methods and namespaces.
-/

namespace WinrtLint.Source

open WinrtLint.Pairs

namespace Tree

/-- The text of the name of a declaration. -/
def nameText? (declaration : Tree) : Option String :=
  (declaration.childIn? .name).map text

/-- The name under which a member of a type's body is listed among the static methods. -/
def staticMethodName? (member : Tree) : Option String :=
  if member.kind = .memberDeclaration .method && member.modifiers.contains "static"
  then member.nameText?
  else none

/-- The text of a node may be read as a plain name. -/
def MaySpell (node : Tree) : Prop :=
  node.kind = .identifier ∨ node.kind = .qualifiedName ∨ node.kind = .aliasQualifiedName ∨
    node.label.field = some .name ∨ node.label.field = some .expression

/-- Two nodes cannot be told apart by what is read of them and, where raw texts count, directly
below them. -/
structure ReadsAlike (left right : Tree) : Prop where
  kind : left.kind = right.kind
  field : left.label.field = right.label.field
  isNamed : left.label.isNamed = right.label.isNamed
  modifier : left.kind.isModifier = true → left.text = right.text
  word : left.kind = .identifier ∨ left.kind = .implicitParameter →
    DottedName.withoutVerbatim left.text = DottedName.withoutVerbatim right.text
  spelled : left.MaySpell → DottedName.ofText? left.text = DottedName.ofText? right.text
  receiver : left.label.field = some .expression →
    DottedName.beginsGlobal left.text = DottedName.beginsGlobal right.text
  directive : left.kind = .usingDirective → ∀ declarations : Declarations,
    declarations.readUsing left = declarations.readUsing right
  typeName : left.kind.declaresType = true →
    left.nameText? = right.nameText?
  staticMethod : left.staticMethodName? = right.staticMethodName?

/-- Two nodes that are neither names nor declarations, so that nothing is read of them or below
them from outside. -/
def Closed (left right : Tree) : Prop :=
  (∃ name, left.kind = .other name) ∧ (∃ name, right.kind = .other name) ∧
    left.label.isNamed = right.label.isNamed

/-! ## Using directives -/

/-- The parts of a using directive among which its target is the last. -/
def directiveParts (directive : Tree) : List Tree :=
  directive.namedChildren.filter fun child => child.kind ≠ .comment && child.kind ≠ .nameEquals

/-- The short name that a using directive gives; possibly empty. -/
def shortName? (directive : Tree) : Option String :=
  Declarations.aliasOf? directive directive.directiveParts

/-- The target of a using directive. -/
def directiveTarget? (directive : Tree) : Option String :=
  directive.directiveParts.getLast?.bind fun part => DottedName.ofText? part.text

/-- Nothing else is read of a using directive than its target, its short name and whether it is
static. -/
theorem readUsing_eq
    {left right : Tree}
    (target : left.directiveTarget? = right.directiveTarget?)
    (short : left.shortName? = right.shortName?)
    (static : left.hasChildOf .staticWord = right.hasChildOf .staticWord)
    (declarations : Declarations) :
    declarations.readUsing left = declarations.readUsing right := by
  rw [directiveTarget?, directiveTarget?, directiveParts, directiveParts] at target
  rw [shortName?, shortName?, directiveParts, directiveParts] at short
  simp only [Declarations.readUsing, target, short, static]

section Directives

variable {related : Tree → Tree → Prop} {left right : Tree}

theorem directiveParts_paired
    (kinds : ∀ {first second}, related first second → first.kind = second.kind)
    (named : ∀ {first second}, related first second → first.label.isNamed = second.label.isNamed)
    (paired : List.Forall₂ related left.children right.children) :
    List.Forall₂ related left.directiveParts right.directiveParts := by
  have listed : List.Forall₂ _ left.namedChildren right.namedChildren :=
    Pairs.filter (fun _ _ pair => named pair) paired
  have parts : List.Forall₂ _ left.directiveParts right.directiveParts :=
    Pairs.filter (fun _ _ pair => by rw [kinds pair.1]) listed
  exact parts.imp fun _ _ pair => pair.1.1

theorem directiveTarget?_eq
    (kinds : ∀ {first second}, related first second → first.kind = second.kind)
    (named : ∀ {first second}, related first second → first.label.isNamed = second.label.isNamed)
    (spelled : ∀ {first second}, related first second →
      DottedName.ofText? first.text = DottedName.ofText? second.text)
    (paired : List.Forall₂ related left.children right.children) :
    left.directiveTarget? = right.directiveTarget? :=
  optionBind_eq (fun _ _ pair => spelled pair)
    (Pairs.getLast? (directiveParts_paired kinds named paired))

theorem shortName?_eq
    (kinds : ∀ {first second}, related first second → first.kind = second.kind)
    (fields : ∀ {first second}, related first second → first.label.field = second.label.field)
    (named : ∀ {first second}, related first second → first.label.isNamed = second.label.isNamed)
    (texts : ∀ {first second}, related first second → first.text = second.text)
    (clauses : ∀ {first second}, related first second → first.kind = .nameEquals →
      (first.namedChildOf? .identifier).map text = (second.namedChildOf? .identifier).map text)
    (paired : List.Forall₂ related left.children right.children) :
    left.shortName? = right.shortName? := by
  have parts := directiveParts_paired kinds named paired
  have clause : Option.Rel _ (left.childOf? .nameEquals) (right.childOf? .nameEquals) :=
    Pairs.find? (fun _ _ pair => by rw [kinds pair]) paired
  have marked : left.hasChildOf .equalsSign = right.hasChildOf .equalsSign :=
    Pairs.any_eq (fun _ _ pair => by rw [kinds pair]) paired
  have inField : Option.Rel _ (left.childIn? .name) (right.childIn? .name) :=
    Pairs.find? (fun _ _ pair => by rw [fields pair]) paired
  have spelled : ((left.childIn? .name).or left.directiveParts.head?).map text =
      ((right.childIn? .name).or right.directiveParts.head?).map text :=
    optionMap_eq (fun _ _ pair => texts pair) <|
      optionOr (optionImp (fun _ _ pair => pair.1) inField) (Pairs.head? parts)
  rw [shortName?, shortName?, Declarations.aliasOf?, Declarations.aliasOf?, marked, spelled]
  generalize left.childOf? .nameEquals = first at clause ⊢
  generalize right.childOf? .nameEquals = second at clause ⊢
  cases clause with
  | none => rfl
  | some pair => exact clauses pair.1 (of_decide_eq_true pair.2)

end Directives

/-! ## Names of declarations -/

section Names

variable {related : Tree → Tree → Prop} {left right : Tree}

theorem nameText?_eq
    (fields : ∀ {first second}, related first second → first.label.field = second.label.field)
    (texts : ∀ {first second}, related first second → first.label.field = some .name →
      first.text = second.text)
    (paired : List.Forall₂ related left.children right.children) :
    left.nameText? = right.nameText? :=
  optionMap_eq (fun _ _ pair => texts pair.1 (of_decide_eq_true pair.2)) <|
    Pairs.find? (fun _ _ pair => by rw [fields pair]) paired

theorem modifiers_eq_of_paired
    (kinds : ∀ {first second}, related first second →
      first.kind.isModifier = second.kind.isModifier)
    (texts : ∀ {first second}, related first second → first.kind.isModifier = true →
      first.text = second.text)
    (paired : List.Forall₂ related left.children right.children) :
    left.modifiers = right.modifiers :=
  Pairs.map_eq (fun _ _ pair => by rw [texts pair.1 pair.2]) <|
    Pairs.filter (fun _ _ pair => kinds pair) paired

theorem staticMethodName?_eq
    (kind : left.kind = right.kind)
    (modifiers : left.modifiers = right.modifiers)
    (name : left.nameText? = right.nameText?) :
    left.staticMethodName? = right.staticMethodName? := by
  rw [staticMethodName?, staticMethodName?, kind, modifiers]
  exact congrArg (ite _ · none) name

end Names

/-- A relation between trees that read alike down to the parts of methods. -/
structure Likeness (related : Tree → Tree → Prop) : Prop where
  reads : ∀ {left right : Tree}, related left right → left.ReadsAlike right
  below : ∀ {left right : Tree}, related left right →
    List.Forall₂ (fun first second => related first second ∨
      left.kind = .memberDeclaration .method ∧ Closed first second) left.children right.children

namespace Likeness

variable {related : Tree → Tree → Prop} {left right : Tree}

/-! ## Parts of related trees -/

theorem children
    (likeness : Likeness related)
    (pair : related left right)
    (noMethod : left.kind ≠ .memberDeclaration .method) :
    List.Forall₂ related left.children right.children :=
  (likeness.below pair).imp fun _ _ below =>
    below.resolve_right fun closed => noMethod closed.1

theorem namedChildren
    (likeness : Likeness related)
    (pair : related left right)
    (noMethod : left.kind ≠ .memberDeclaration .method) :
    List.Forall₂ related left.namedChildren right.namedChildren := by
  have named : List.Forall₂ (fun first second => related first second ∧ first.label.isNamed = true)
      left.namedChildren right.namedChildren :=
    Pairs.filter (fun _ _ below => (likeness.reads below).isNamed)
      (likeness.children pair noMethod)
  exact named.imp fun _ _ below => below.1

theorem childIn?
    (likeness : Likeness related)
    (pair : related left right)
    (noMethod : left.kind ≠ .memberDeclaration .method)
    (field : Field) :
    Option.Rel (fun first second => related first second ∧ first.label.field = some field)
      (left.childIn? field) (right.childIn? field) :=
  optionImp (fun _ _ found => ⟨found.1, of_decide_eq_true found.2⟩) <|
    Pairs.find? (fun _ _ below => by rw [(likeness.reads below).field])
      (likeness.children pair noMethod)

theorem childOf?
    (likeness : Likeness related)
    (pair : related left right)
    (noMethod : left.kind ≠ .memberDeclaration .method)
    (kind : Kind) :
    Option.Rel (fun first second => related first second ∧ first.kind = kind)
      (left.childOf? kind) (right.childOf? kind) :=
  optionImp (fun _ _ found => ⟨found.1, of_decide_eq_true found.2⟩) <|
    Pairs.find? (fun _ _ below => by rw [(likeness.reads below).kind])
      (likeness.children pair noMethod)

theorem namedChildOf?
    (likeness : Likeness related)
    (pair : related left right)
    (noMethod : left.kind ≠ .memberDeclaration .method)
    (kind : Kind) :
    Option.Rel (fun first second => related first second ∧ first.kind = kind)
      (left.namedChildOf? kind) (right.namedChildOf? kind) :=
  optionImp (fun _ _ found => ⟨found.1, of_decide_eq_true found.2⟩) <|
    Pairs.find? (fun _ _ below => by rw [(likeness.reads below).kind])
      (likeness.namedChildren pair noMethod)

theorem hasChildOf_eq
    (likeness : Likeness related)
    (pair : related left right)
    (noMethod : left.kind ≠ .memberDeclaration .method)
    (kind : Kind) :
    left.hasChildOf kind = right.hasChildOf kind :=
  Pairs.any_eq (fun _ _ below => by rw [(likeness.reads below).kind])
    (likeness.children pair noMethod)

theorem modifiers_eq
    (likeness : Likeness related)
    (pair : related left right)
    (noMethod : left.kind ≠ .memberDeclaration .method) :
    left.modifiers = right.modifiers :=
  modifiers_eq_of_paired (fun below => by rw [(likeness.reads below).kind])
    (fun below => (likeness.reads below).modifier) (likeness.children pair noMethod)

/-! ## Names of values -/

theorem identifierName?_eq
    (likeness : Likeness related)
    (pair : related left right) :
    left.identifierName? = right.identifierName? := by
  have reads := likeness.reads pair
  rw [identifierName?, identifierName?, ← reads.kind]
  cases kind : left.kind with
  | identifier => exact congrArg some (reads.word (.inl kind))
  | singleDesignation =>
      exact optionMap_eq (fun _ _ found => (likeness.reads found.1).word (.inl found.2))
        (likeness.namedChildOf? pair (by simp [kind]) .identifier)
  | _ => rfl

theorem loopVariable?
    (likeness : Likeness related)
    (pair : related left right)
    (noMethod : left.kind ≠ .memberDeclaration .method) :
    Option.Rel related left.loopVariable? right.loopVariable? := by
  have before : List.Forall₂ related
      (left.children.takeWhile fun child => child.kind ≠ .inWord)
      (right.children.takeWhile fun child => child.kind ≠ .inWord) :=
    Pairs.takeWhile (fun _ _ below => by rw [(likeness.reads below).kind])
      (likeness.children pair noMethod)
  have last : Option.Rel related
      ((left.children.takeWhile fun child => child.kind ≠ .inWord).reverse.find?
        fun child => child.kind = .identifier)
      ((right.children.takeWhile fun child => child.kind ≠ .inWord).reverse.find?
        fun child => child.kind = .identifier) :=
    optionImp (fun _ _ found => found.1) <|
      Pairs.find? (fun _ _ below => by rw [(likeness.reads below).kind])
        (List.rel_reverse before)
  have inField := likeness.childIn? pair noMethod .left
  rw [Tree.loopVariable?, Tree.loopVariable?]
  generalize left.childIn? .left = first at inField ⊢
  generalize right.childIn? .left = second at inField ⊢
  cases inField with
  | none => exact last
  | some found => exact .some found.1

theorem declaratorName?
    (likeness : Likeness related)
    (pair : related left right)
    (noMethod : left.kind ≠ .memberDeclaration .method) :
    Option.Rel related left.declaratorName? right.declaratorName? := by
  have inField := likeness.childIn? pair noMethod .name
  rw [Tree.declaratorName?, Tree.declaratorName?]
  generalize left.childIn? .name = first at inField ⊢
  generalize right.childIn? .name = second at inField ⊢
  cases inField with
  | none => exact optionImp (fun _ _ found => found.1) (likeness.childOf? pair noMethod .identifier)
  | some found => exact .some found.1

/-- The name in a field is the same identifier. -/
theorem identifierIn?_eq
    (likeness : Likeness related)
    (pair : related left right)
    (noMethod : left.kind ≠ .memberDeclaration .method)
    (field : Field) :
    (left.childIn? field).bind identifierName? = (right.childIn? field).bind identifierName? :=
  optionBind_eq (fun _ _ found => likeness.identifierName?_eq found.1)
    (likeness.childIn? pair noMethod field)

theorem valueName?_eq
    (likeness : Likeness related)
    (pair : related left right) :
    left.valueName? = right.valueName? := by
  have reads := likeness.reads pair
  rw [valueName?, valueName?, ← reads.kind]
  cases kind : left.kind with
  | parameter => exact likeness.identifierIn?_eq pair (by simp [kind]) .name
  | catchDeclaration => exact likeness.identifierIn?_eq pair (by simp [kind]) .name
  | declarationExpression => exact likeness.identifierIn?_eq pair (by simp [kind]) .name
  | variableDeclarator =>
      exact optionBind_eq (fun _ _ => likeness.identifierName?_eq)
        (likeness.declaratorName? pair (by simp [kind]))
  | foreachStatement =>
      exact optionBind_eq (fun _ _ => likeness.identifierName?_eq)
        (likeness.loopVariable? pair (by simp [kind]))
  | declarationPattern =>
      have noMethod : left.kind ≠ .memberDeclaration .method := by simp [kind]
      exact optionBind_eq (fun _ _ => likeness.identifierName?_eq) <|
        optionOr (optionImp (fun _ _ found => found.1) (likeness.childIn? pair noMethod .name))
          (optionImp (fun _ _ found => found.1) (likeness.childIn? pair noMethod .designation))
  | lambda => exact likeness.identifierIn?_eq pair (by simp [kind]) .parameters
  | singleDesignation => exact likeness.identifierName?_eq pair
  | implicitParameter => exact congrArg some (reads.word (.inr kind))
  | _ => rfl

theorem valueNames_eq
    (likeness : Likeness related)
    {first second : List Tree}
    (paired : List.Forall₂ related first second) :
    valueNames first = valueNames second := by
  have names : first.filterMap valueName? = second.filterMap valueName? :=
    Pairs.filterMap_eq (fun _ _ below => likeness.valueName?_eq below) paired
  rw [valueNames, valueNames, names]

/-- The values that a node declares in variable declarations directly below it. -/
theorem declaredValues_eq
    (likeness : Likeness related)
    (pair : related left right)
    (noMethod : left.kind ≠ .memberDeclaration .method) :
    (left.namedChildren.flatMap fun declaration =>
        if declaration.kind = .variableDeclaration then valueNames declaration.namedChildren
        else []) =
      right.namedChildren.flatMap fun declaration =>
        if declaration.kind = .variableDeclaration then valueNames declaration.namedChildren
        else [] := by
  refine Pairs.flatMap_eq (fun first second below => ?_) (likeness.namedChildren pair noMethod)
  rw [← (likeness.reads below).kind]
  split
  · rename_i declares
    exact likeness.valueNames_eq (likeness.namedChildren below (by simp [declares]))
  · rfl

theorem memberValueNames_eq
    (likeness : Likeness related)
    (pair : related left right) :
    left.memberValueNames = right.memberValueNames := by
  have named : ∀ form, left.kind = .memberDeclaration form → form ≠ .method →
      ((left.childIn? .name).bind identifierName?).toList.filter (· ≠ "") =
        ((right.childIn? .name).bind identifierName?).toList.filter (· ≠ "") := by
    intro form kind noMethod
    rw [likeness.identifierIn?_eq pair (by simpa [kind] using noMethod) .name]
  rw [memberValueNames, memberValueNames, ← (likeness.reads pair).kind]
  cases kind : left.kind with
  | fieldDeclaration => exact likeness.declaredValues_eq pair (by simp [kind])
  | eventFieldDeclaration => exact likeness.declaredValues_eq pair (by simp [kind])
  | memberDeclaration form =>
      cases form with
      | property => exact named .property kind (by decide)
      | event => exact named .event kind (by decide)
      | _ => rfl
  | _ => rfl

/-- The members in two bodies of types declare the same values and the same static methods, also
where a method stands in the place of a body. -/
theorem members_eq (likeness : Likeness related) (pair : related left right) :
    List.Forall₂ (fun first second =>
      first.memberValueNames = second.memberValueNames ∧
        first.staticMethodName? = second.staticMethodName?)
      left.namedChildren right.namedChildren := by
  have named : List.Forall₂ (fun first second => (related first second ∨
        left.kind = .memberDeclaration .method ∧ Closed first second) ∧
      first.label.isNamed = true) left.namedChildren right.namedChildren := by
    refine Pairs.filter (fun first second below => ?_) (likeness.below pair)
    exact below.elim (fun below => (likeness.reads below).isNamed) fun closed => closed.2.2.2
  refine named.imp fun first second below => ?_
  rcases below.1 with below | ⟨-, ⟨kind, isOther⟩, ⟨other, alsoOther⟩, -⟩
  · exact ⟨likeness.memberValueNames_eq below, (likeness.reads below).staticMethod⟩
  · constructor
    · rw [memberValueNames, memberValueNames, isOther, alsoOther]
    · rw [staticMethodName?, staticMethodName?, isOther, alsoOther]
      rfl

theorem typeValueNames_eq
    (likeness : Likeness related)
    (pair : related left right)
    (noMethod : left.kind ≠ .memberDeclaration .method) :
    left.typeValueNames = right.typeValueNames := by
  have primary : (left.children.flatMap fun child =>
      if child.kind = .parameterList then valueNames child.namedChildren else []) =
      right.children.flatMap fun child =>
        if child.kind = .parameterList then valueNames child.namedChildren else [] := by
    refine Pairs.flatMap_eq (fun first second below => ?_) (likeness.children pair noMethod)
    rw [← (likeness.reads below).kind]
    split
    · rename_i isList
      exact likeness.valueNames_eq (likeness.namedChildren below (by simp [isList]))
    · rfl
  have bodies := likeness.childIn? pair noMethod .body
  rw [typeValueNames, typeValueNames, primary]
  generalize left.childIn? .body = first at bodies ⊢
  generalize right.childIn? .body = second at bodies ⊢
  cases bodies with
  | none => rfl
  | some found =>
      exact congrArg _ <|
        Pairs.flatMap_eq (fun _ _ members => members.1) (likeness.members_eq found.1)

/-! ## Declarations -/

theorem staticMethodNames_eq
    (likeness : Likeness related)
    (pair : related left right)
    (noMethod : left.kind ≠ .memberDeclaration .method) :
    left.staticMethodNames = right.staticMethodNames := by
  have bodies := likeness.childIn? pair noMethod .body
  rw [staticMethodNames, staticMethodNames]
  generalize left.childIn? .body = first at bodies ⊢
  generalize right.childIn? .body = second at bodies ⊢
  cases bodies with
  | none => rfl
  | some found =>
      exact Pairs.filterMap_eq (fun _ _ members => members.2) (likeness.members_eq found.1)

theorem declaresValueType_eq
    (likeness : Likeness related)
    (pair : related left right) :
    left.declaresValueType = right.declaresValueType := by
  rw [declaresValueType, declaresValueType, ← (likeness.reads pair).kind]
  cases kind : left.kind with
  | typeDeclaration form =>
      cases form with
      | recordForm => exact likeness.hasChildOf_eq pair (by simp [kind]) .structWord
      | _ => rfl
  | _ => rfl

theorem namespaceName?_eq
    (likeness : Likeness related)
    (pair : related left right)
    (noMethod : left.kind ≠ .memberDeclaration .method) :
    left.namespaceName? = right.namespaceName? :=
  optionBind_eq
    (fun _ _ found => (likeness.reads found.1).spelled (.inr (.inr (.inr (.inl found.2)))))
    (likeness.childIn? pair noMethod .name)

theorem simpleName?_eq
    (likeness : Likeness related)
    (pair : related left right) :
    left.simpleName? = right.simpleName? := by
  have reads := likeness.reads pair
  rw [simpleName?, simpleName?, ← reads.kind]
  cases kind : left.kind with
  | identifier => exact congrArg some (reads.word (.inl kind))
  | genericName =>
      exact optionMap_eq (fun _ _ found => (likeness.reads found.1).word (.inl found.2))
        (likeness.namedChildOf? pair (by simp [kind]) .identifier)
  | _ => rfl

end Likeness

end Tree

end WinrtLint.Source
