import WinrtLint.Proofs.Source.Correspondence

/-!
# Trees that are written alike

Binding never asks where in a file a node stands, so two trees that are written
alike read alike wherever they stand (`likeness_sameSource`).  Around an edit two
nodes cover different texts; they read alike all the same if their parts do and
their texts agree where texts are read (`SameAround.readsAlike`).
-/

namespace WinrtLint.Source.Tree

/-- Two nodes are written alike, wherever they stand in their files. -/
structure SameSource (left right : Tree) : Prop where
  kind : left.kind = right.kind
  field : left.label.field = right.label.field
  isNamed : left.label.isNamed = right.label.isNamed
  text : left.text = right.text

/-- The text of a node is read: as a name, as a modifier, or as the receiver of a call. -/
def TextCounts (node : Tree) : Prop :=
  node.kind = .implicitParameter ∨ node.kind.isModifier = true ∨ node.MaySpell

theorem textCounts_of_identifier
    {node : Tree}
    (kind : node.kind = .identifier) :
    node.TextCounts :=
  .inr (.inr (.inl kind))

theorem textCounts_of_name
    {node : Tree}
    (field : node.label.field = some .name) :
    node.TextCounts :=
  .inr (.inr (.inr (.inr (.inr (.inl field)))))

theorem textCounts_of_expression
    {node : Tree}
    (field : node.label.field = some .expression) :
    node.TextCounts :=
  .inr (.inr (.inr (.inr (.inr (.inr field)))))

/-- Two nodes that may cover different texts where these are not read. -/
structure SameAround (left right : Tree) : Prop where
  kind : left.kind = right.kind
  field : left.label.field = right.label.field
  isNamed : left.label.isNamed = right.label.isNamed
  text : left.TextCounts → left.text = right.text

variable {related : Tree → Tree → Prop} {left right : Tree}

theorem SameSource.around (same : SameSource left right) :
    SameAround left right :=
  ⟨same.kind, same.field, same.isNamed, fun _ => same.text⟩

/-- Two parts of a declaration cannot be told apart by what is read of them for its modifiers and
its name. -/
structure SamePart (left right : Tree) : Prop where
  field : left.label.field = right.label.field
  isModifier : left.kind.isModifier = right.kind.isModifier
  modifier : left.kind.isModifier = true → left.text = right.text
  name : left.label.field = some .name → left.text = right.text

theorem SameAround.part (around : SameAround left right) :
    SamePart left right where
  field := around.field
  isModifier := by rw [around.kind]
  modifier isModifier := around.text (.inr (.inl isModifier))
  name isName := around.text (textCounts_of_name isName)

theorem SameAround.readsAlike
    (around : SameAround left right)
    (parts : List.Forall₂ SamePart left.children right.children)
    (directive : left.kind = .usingDirective → ∀ declarations : Declarations,
      declarations.readUsing left = declarations.readUsing right) :
    left.ReadsAlike right := by
  have modifiers : left.modifiers = right.modifiers :=
    modifiers_eq_of_paired SamePart.isModifier SamePart.modifier parts
  have name : left.nameText? = right.nameText? := nameText?_eq SamePart.field SamePart.name parts
  exact
    { kind := around.kind
      field := around.field
      isNamed := around.isNamed
      modifier := fun isModifier => around.text (.inr (.inl isModifier))
      word := fun isWord => by rw [around.text (isWord.elim textCounts_of_identifier .inl)]
      spelled := fun spells => by rw [around.text (.inr (.inr spells))]
      receiver := fun receives => by rw [around.text (textCounts_of_expression receives)]
      directive
      typeName := fun _ => name
      staticMethod := staticMethodName?_eq around.kind modifiers name }

/-- Using directives are taken in alike if their parts have the same texts, and so do the words in
their parts. -/
theorem readUsing_eq_of_sameText
    (around : ∀ {first second}, related first second → SameAround first second)
    (words : ∀ {first second}, related first second → first.kind = .nameEquals →
      List.Forall₂ SameAround first.children second.children)
    (parts : List.Forall₂ (fun first second => related first second ∧ first.text = second.text)
      left.children right.children)
    (declarations : Declarations) :
    declarations.readUsing left = declarations.readUsing right := by
  have target : left.directiveTarget? = right.directiveTarget? :=
    directiveTarget?_eq (fun pair => (around pair.1).kind) (fun pair => (around pair.1).isNamed)
      (fun pair => by rw [pair.2]) parts
  have short : left.shortName? = right.shortName? := by
    refine shortName?_eq (fun pair => (around pair.1).kind) (fun pair => (around pair.1).field)
      (fun pair => (around pair.1).isNamed) (fun pair => pair.2) ?_ parts
    intro first second pair isClause
    have named : List.Forall₂ _ first.namedChildren second.namedChildren :=
      Pairs.filter (fun _ _ word => word.isNamed) (words pair.1 isClause)
    have found : Option.Rel _ (first.namedChildOf? .identifier)
        (second.namedChildOf? .identifier) :=
      Pairs.find? (fun _ _ word => by rw [word.1.kind]) named
    refine Pairs.optionMap_eq (fun _ _ found => ?_) found
    exact found.1.1.text (textCounts_of_identifier (of_decide_eq_true found.2))
  have static : left.hasChildOf .staticWord = right.hasChildOf .staticWord :=
    Pairs.any_eq (fun _ _ pair => by rw [(around pair.1).kind]) parts
  exact readUsing_eq target short static declarations

theorem likeness_sameSource : Likeness (Pointwise SameSource) where
  reads same := by
    refine same.here.around.readsAlike (same.children.imp fun _ _ part => part.here.around.part) ?_
    intro _ declarations
    exact readUsing_eq_of_sameText (fun part => part.here.around)
      (fun part _ => part.children.imp fun _ _ word => word.here.around)
      (same.children.imp fun _ _ part => ⟨part, part.here.text⟩) declarations
  below same := same.children.imp fun _ _ part => .inl part

theorem sameSource_refl (tree : Tree) : Pointwise SameSource tree tree :=
  .refl (fun _ => ⟨rfl, rfl, rfl, rfl⟩) tree

/-- Two trees are written alike with nodes of certain kinds only. -/
def SameWithin (admitted : Kind → Prop) (left right : Tree) : Prop :=
  Pointwise SameSource left right ∧ ∀ node ∈ left.preorder, admitted node.kind

variable {admitted : Kind → Prop}

theorem SameWithin.kind (same : SameWithin admitted left right) :
    admitted left.kind := by
  refine same.2 left ?_
  rw [preorder_eq]
  exact List.mem_cons_self

theorem hereditary_sameWithin : Hereditary (SameWithin admitted) := by
  intro left right same
  have listed := (List.forall₂_and_left _ _).2 ⟨fun _ member => member, same.1.children⟩
  exact listed.imp fun _ _ child =>
    ⟨child.2, fun node inside => same.2 node (mem_preorder_of_mem_children child.1 inside)⟩

theorem likeness_sameWithin : Likeness (SameWithin admitted) where
  reads same := likeness_sameSource.reads same.1
  below same := (hereditary_sameWithin same).imp fun _ _ child => .inl child

/-- With the nodes of one tree, those of the other are of the admitted kinds. -/
theorem SameWithin.other (same : SameWithin admitted left right) :
    ∀ node ∈ right.preorder, admitted node.kind := by
  refine Pairs.forall_right (fun first second pair => ?_) (hereditary_sameWithin.preorder same)
  exact pair.1.here.kind ▸ pair.kind

theorem sameWithin_of_forall
    {first second : List Tree}
    (paired : List.Forall₂ (Pointwise SameSource) first second)
    (kinds : ∀ tree ∈ first, ∀ node ∈ tree.preorder, admitted node.kind) :
    List.Forall₂ (SameWithin admitted) first second :=
  ((List.forall₂_and_left _ _).2 ⟨kinds, paired⟩).imp fun _ _ pair => ⟨pair.2, pair.1⟩

end WinrtLint.Source.Tree
