import WinrtLint.Proofs.Source.Correspondence
import WinrtLint.Proofs.Source.GlobalNames
import WinrtLint.Proofs.Source.OwnMethods

/-!
# Verbatim marks

The mark `@` allows a keyword as an identifier and is no part of the name.
Names are read without their marks where they are used, and so are the names of
namespaces and of values where they are declared.  Two units that differ in
such marks alone have the same answers throughout
(`Model.verbatim_marks_immaterial`).

Marks do count in front of a short name given by a using directive, of the name
of a declared type and of the name of a static method: these are kept as they
are written, and no name that is looked up bears a mark.  So a mark there hides
a type, a method or a short name from the calls that are meant for it
(`Model.verbatim_mark_counts_where_declared`).
-/

namespace WinrtLint.Source

open Sample

namespace DottedName

/-- A text without its verbatim marks. -/
def unmarked (text : String) : String :=
  String.ofList (text.toList.filter (· ≠ '@'))

/-- Marks play no part in the plain name that a text spells. -/
theorem ofText?_of_unmarked
    {text other : String}
    (same : unmarked text = unmarked other) :
    ofText? text = ofText? other := by
  have bare : ∀ text : String,
      significant text.toList = (unmarked text).toList.filter fun char => !Text.isBlank char := by
    intro text
    rw [significant, unmarked, String.toList_ofList, List.filter_filter]
    apply List.filter_congr
    intro char _
    cases Text.isBlank char <;> simp [bne, beq_eq_decide]
  rw [ofText?, ofText?, bare, bare, same]

end DottedName

namespace Tree

/-- Two nodes differ in the verbatim marks of their texts at most. -/
structure AlikeButMarks (left right : Tree) : Prop where
  kind : left.kind = right.kind
  field : left.label.field = right.label.field
  isNamed : left.label.isNamed = right.label.isNamed
  isMissing : left.label.isMissing = right.label.isMissing
  text : DottedName.unmarked left.text = DottedName.unmarked right.text

/-- Two nodes have the same marks where marks count: inside words, in modifiers, in front of the
mark of a name meant from the top, and in the names that using directives, types and static
methods introduce. -/
structure MarksAgree (left right : Tree) : Prop where
  word : left.kind = .identifier ∨ left.kind = .implicitParameter →
    DottedName.withoutVerbatim left.text = DottedName.withoutVerbatim right.text
  modifier : left.kind.isModifier = true → left.text = right.text
  receiver : left.label.field = some .expression →
    DottedName.beginsGlobal left.text = DottedName.beginsGlobal right.text
  short : left.kind = .usingDirective → left.shortName? = right.shortName?
  typeName : left.kind.declaresType = true → left.nameText? = right.nameText?
  staticMethod : left.staticMethodName? = right.staticMethodName?

instance : DecidableRel AlikeButMarks := fun left right =>
  decidable_of_iff (left.kind = right.kind ∧ left.label.field = right.label.field ∧
      left.label.isNamed = right.label.isNamed ∧ left.label.isMissing = right.label.isMissing ∧
      DottedName.unmarked left.text = DottedName.unmarked right.text)
    ⟨fun ⟨kind, field, isNamed, isMissing, text⟩ => ⟨kind, field, isNamed, isMissing, text⟩,
      fun alike => ⟨alike.kind, alike.field, alike.isNamed, alike.isMissing, alike.text⟩⟩

instance : DecidableRel MarksAgree := fun left right =>
  decidable_of_iff ((left.kind = .identifier ∨ left.kind = .implicitParameter →
        DottedName.withoutVerbatim left.text = DottedName.withoutVerbatim right.text) ∧
      (left.kind.isModifier = true → left.text = right.text) ∧
      (left.label.field = some .expression →
        DottedName.beginsGlobal left.text = DottedName.beginsGlobal right.text) ∧
      (left.kind = .usingDirective → left.shortName? = right.shortName?) ∧
      (left.kind.declaresType = true → left.nameText? = right.nameText?) ∧
      left.staticMethodName? = right.staticMethodName?)
    ⟨fun ⟨word, modifier, receiver, short, typeName, staticMethod⟩ =>
        ⟨word, modifier, receiver, short, typeName, staticMethod⟩,
      fun marks => ⟨marks.word, marks.modifier, marks.receiver, marks.short, marks.typeName,
        marks.staticMethod⟩⟩

/-- Two nodes differ in marks that do not count at most. -/
def MarkedAlike (left right : Tree) : Prop :=
  left.AlikeButMarks right ∧ left.MarksAgree right

instance : DecidableRel MarkedAlike := fun left right =>
  inferInstanceAs (Decidable (left.AlikeButMarks right ∧ left.MarksAgree right))

theorem readsAlike_of_markedAlike
    {left right : Tree}
    (pair : Pointwise MarkedAlike left right) :
    left.ReadsAlike right := by
  have alike := pair.here.1
  have marks := pair.here.2
  have directive : left.kind = .usingDirective → ∀ declarations : Declarations,
      declarations.readUsing left = declarations.readUsing right := by
    intro isDirective
    have target : left.directiveTarget? = right.directiveTarget? :=
      directiveTarget?_eq (fun below => below.here.1.kind) (fun below => below.here.1.isNamed)
        (fun below => DottedName.ofText?_of_unmarked below.here.1.text) pair.children
    have static : left.hasChildOf .staticWord = right.hasChildOf .staticWord :=
      Pairs.any_eq (fun _ _ below => by rw [below.here.1.kind]) pair.children
    exact readUsing_eq target (marks.short isDirective) static
  exact
    { kind := alike.kind
      field := alike.field
      isNamed := alike.isNamed
      modifier := marks.modifier
      word := marks.word
      spelled := fun _ => DottedName.ofText?_of_unmarked alike.text
      receiver := marks.receiver
      directive
      typeName := marks.typeName
      staticMethod := marks.staticMethod }

theorem likeness_markedAlike : Likeness (Pointwise MarkedAlike) where
  reads := readsAlike_of_markedAlike
  below pair := pair.children.imp fun _ _ below => .inl below

end Tree

/-! ## Names out of reach -/

namespace DottedName

/-- A text bears no verbatim mark. -/
def IsBare (text : String) : Prop :=
  '@' ∉ text.toList

theorem isBare_of_isDotted
    {name : String}
    (dotted : isDotted name.toList = true) :
    IsBare name :=
  fun marked => (not_mark_of_isDotted dotted marked).2.1 rfl

theorem isBare_of_ofText?
    {text name : String}
    (spelled : ofText? text = some name) :
    IsBare name :=
  isBare_of_isDotted (isDotted_of_ofText? spelled)

theorem IsBare.under
    {space name : String}
    (bareSpace : IsBare space)
    (bareName : IsBare name) :
    IsBare (under space name) := by
  rw [IsBare, DottedName.under, String.toList_append, String.toList_append, List.mem_append,
    List.mem_append]
  rintro ((inSpace | isDot) | inName)
  · exact bareSpace inSpace
  · revert isDot
    decide
  · exact bareName inName

theorem IsBare.of_mem_segments
    {name segment : String}
    (bare : IsBare name)
    (member : segment ∈ segments name) :
    IsBare segment := by
  rcases List.mem_map.1 member with ⟨piece, among, rfl⟩
  rw [IsBare, String.toList_ofList]
  exact fun marked => bare (Text.mem_of_mem_pieces among marked)

theorem IsBare.split_fst {name : String} (bare : IsBare name) :
    IsBare (split name).1 := by
  have cut : (split name).1.toList = name.toList.takeWhile (· ≠ '.') := by
    rw [← Text.cutFirst_fst]
    exact String.toList_ofList
  rw [IsBare, cut]
  exact fun marked => bare (List.takeWhile_subset _ marked)

theorem IsBare.split_snd
    {name rest : String}
    (bare : IsBare name)
    (behind : (split name).2 = some rest) :
    IsBare rest := by
  rcases Option.map_eq_some_iff.1 behind with ⟨text, cut, rfl⟩
  rw [IsBare, String.toList_ofList]
  exact fun marked => bare (Text.mem_of_mem_cutFirst cut marked)

end DottedName

open DottedName (IsBare)

namespace Declarations

/-- The names that using directives bring in, and the namespace of the file, bear no marks. -/
structure Bare (declarations : Declarations) : Prop where
  usings : ∀ space ∈ declarations.usings, IsBare space
  targets : ∀ short target, declarations.aliases.get? short = some target → IsBare target
  fileNamespace : ∀ space ∈ declarations.fileNamespace, IsBare space

theorem Bare.readUsing
    {declarations : Declarations}
    (bare : declarations.Bare)
    (directive : Tree) :
    (declarations.readUsing directive).Bare := by
  rw [Declarations.readUsing]
  split
  · exact bare
  · rename_i target found
    rcases Option.bind_eq_some_iff.1 found with ⟨part, -, spelled⟩
    have bareTarget : IsBare target := DottedName.isBare_of_ofText? spelled
    split
    · rename_i short _
      refine ⟨bare.usings, fun other target entered => ?_, bare.fileNamespace⟩
      rw [Dictionary.get?_insert] at entered
      split at entered
      · cases entered
        exact bareTarget
      · exact bare.targets other target entered
    · split
      · exact ⟨bare.usings, bare.targets, bare.fileNamespace⟩
      · refine ⟨fun space member => ?_, bare.targets, bare.fileNamespace⟩
        rcases List.mem_append.1 member with earlier | isTarget
        · exact bare.usings space earlier
        · rw [List.mem_singleton.1 isTarget]
          exact bareTarget

theorem Bare.read
    {declarations : Declarations}
    (bare : declarations.Bare)
    (site : Site) :
    (declarations.read site).Bare := by
  rw [Declarations.read]
  split
  · exact bare.readUsing site.node
  · split
    · exact bare
    · exact ⟨bare.usings, bare.targets, fun _ spelled => DottedName.isBare_of_ofText? spelled⟩
  · rw [Declarations.readType]
    split
    · exact bare
    · exact ⟨bare.usings, bare.targets, bare.fileNamespace⟩
  · exact bare

theorem bare_ofTree (root : Tree) : (ofTree root).Bare := by
  have along : ∀ (sites : List Site) (declarations : Declarations), declarations.Bare →
      (sites.foldl read declarations).Bare := by
    intro sites
    induction sites with
    | nil => exact fun _ bare => bare
    | cons site rest induction => exact fun declarations bare => induction _ (bare.read site)
  refine along root.sites {} ⟨?_, ?_, ?_⟩
  · intro space member
    cases member
  · intro short target entered
    cases entered
  · intro space member
    cases member

/-- The namespaces around a site bear no marks. -/
theorem Bare.namespacesAt
    {declarations : Declarations}
    (bare : declarations.Bare)
    (ancestors : List Tree) :
    ∀ space ∈ declarations.namespacesAt ancestors, IsBare space := by
  intro space member
  simp only [Declarations.namespacesAt, enclosingNamespaces] at member
  rcases List.mem_map.1 member with ⟨last, -, rfl⟩
  intro marked
  rcases Text.mem_joinStrings marked with isDot | ⟨segment, among, inside⟩
  · revert isDot
    decide
  · rcases List.mem_flatMap.1 (List.mem_of_mem_take among) with ⟨name, listed, inName⟩
    have inner : ∀ name ∈
        ((ancestors.filter (·.kind.opensNamespace)).filterMap Tree.namespaceName?).reverse,
        IsBare name := by
      intro name listed
      rcases List.mem_filterMap.1 (List.mem_reverse.1 listed) with ⟨opener, -, named⟩
      rcases Option.bind_eq_some_iff.1 named with ⟨part, -, spelled⟩
      exact DottedName.isBare_of_ofText? spelled
    have bareName : IsBare name := by
      split at listed
      · exact inner name listed
      · rcases List.mem_append.1 listed with ofFile | ofBlock
        · exact bare.fileNamespace name (Option.mem_toList.1 ofFile)
        · exact inner name ofBlock
    exact bareName.of_mem_segments inName inside

end Declarations

namespace Model

variable {model : Model}

/-- Whatever a name binds to is looked up under a name without marks. -/
theorem lookup_of_resolve
    (bare : model.declarations.Bare)
    {text : String}
    {ancestors : List Tree}
    {found : Found}
    (resolved : model.resolve text ancestors = some found) :
    ∃ qualified, IsBare qualified ∧ model.lookup qualified = some found := by
  rcases Option.bind_eq_some_iff.1 resolved with ⟨name, spelled, resolved⟩
  have bareName := DottedName.isBare_of_ofText? spelled
  have under : ∀ spaces : List String, (∀ space ∈ spaces, IsBare space) →
      model.lookupUnder name spaces = some found →
      ∃ qualified, IsBare qualified ∧ model.lookup qualified = some found := by
    intro spaces bareSpaces listed
    rcases List.exists_of_findSome?_eq_some listed with ⟨space, member, looked⟩
    exact ⟨_, (bareSpaces space member).under bareName, looked⟩
  simp only [resolveName] at resolved
  split at resolved
  · rename_i target entered
    have bareTarget := bare.targets _ _ entered
    split at resolved
    · exact ⟨target, bareTarget, resolved⟩
    · rename_i rest behind
      exact ⟨_, bareTarget.under (bareName.split_snd behind), resolved⟩
  -- Without a short name the look-up goes outward: namespaces around, imports, the name alone.
  · rcases Option.or_eq_some_iff.1 resolved with enclosed | ⟨-, resolved⟩
    · exact under _ (bare.namespacesAt ancestors) enclosed
    · rcases Option.or_eq_some_iff.1 resolved with imported | ⟨-, plain⟩
      · split at imported
        · exact under _ bare.usings imported
        · cases imported
      · exact ⟨name, bareName, plain⟩

/-- No name binds to a declared type with a mark in its qualified name. -/
theorem isBare_of_resolve
    {catalog : Catalog}
    {root : Tree}
    {text : String}
    {ancestors : List Tree}
    {found : Found}
    (resolved : (Model.ofTree catalog root).resolve text ancestors = some found)
    (declared : found.isDeclared = true) :
    IsBare found.type.qualifiedName := by
  have bare : (Model.ofTree catalog root).declarations.Bare := Declarations.bare_ofTree root
  rcases lookup_of_resolve bare resolved with ⟨qualified, bareName, looked⟩
  rw [lookup] at looked
  split at looked
  · rename_i type entered
    cases looked
    rcases Tree.get?_types_ofTree.1 entered with ⟨site, before, after, -, named, -⟩
    rw [named]
    exact bareName
  · rcases Option.map_eq_some_iff.1 looked with ⟨type, -, rfl⟩
    cases declared

/-- A model in which one more short name stands for a target. -/
def naming (model : Model) (short target : String) : Model :=
  { model with
    declarations :=
      { model.declarations with aliases := model.declarations.aliases.insert short target } }

/-- A short name with a mark stands for nothing. -/
theorem resolve_naming
    (model : Model)
    {short : String}
    (marked : ¬ IsBare short)
    (target text : String)
    (ancestors : List Tree) :
    (model.naming short target).resolve text ancestors = model.resolve text ancestors := by
  rw [resolve, resolve]
  cases spelled : DottedName.ofText? text with
  | none => rfl
  | some name =>
      have bareHead := (DottedName.isBare_of_ofText? spelled).split_fst
      have apart : short ≠ (DottedName.split name).1 := fun same => marked (same.symm ▸ bareHead)
      have other : (model.declarations.aliases.insert short target).get?
          (DottedName.split name).1 =
          model.declarations.aliases.get? (DottedName.split name).1 := by
        rw [Dictionary.get?_insert, if_neg apart]
      simp only [Option.bind_some, resolveName, naming, other]
      rfl

theorem name_of_accessedMethod
    {model : Model}
    {receiver name : String}
    {ancestors : List Tree}
    {method : MethodSymbol}
    (accessed : model.accessedMethod receiver name ancestors = some method) :
    method.name = name := by
  rw [accessedMethod] at accessed
  split at accessed
  · cases accessed
  · split at accessed
    · cases accessed
    · cases accessed
      rfl

theorem name_of_simpleMethod
    {model : Model}
    {name : String}
    {ancestors : List Tree}
    {method : MethodSymbol}
    (found : model.simpleMethod name ancestors = some method) :
    method.name = name := by
  rcases Option.map_eq_some_iff.1 found with ⟨type, -, rfl⟩
  rfl

/-- The method that an invocation binds to has the simple name that is written there. -/
theorem simpleName?_of_invocationSymbol
    {model : Model}
    {site : Site}
    {method : MethodSymbol}
    (bound : model.invocationSymbol site = .ok (some method)) :
    ∃ tree : Tree, tree.simpleName? = some method.name := by
  by_cases access : site.node.kind = .memberAccess
  · cases receiving : site.node.childIn? .expression with
    | none =>
        rw [invocationSymbol, invocationSymbolWith, if_pos access, receiving] at bound
        cases bound
    | some receiver =>
        cases named : (site.node.childIn? .name).bind Tree.simpleName? with
        | none =>
            rw [invocationSymbol, invocationSymbolWith, if_pos access, receiving, named] at bound
            cases bound
        | some name =>
            rcases Option.bind_eq_some_iff.1 named with ⟨tree, -, spelled⟩
            rw [invocationSymbol_access access receiving named] at bound
            have accessed : model.accessedMethod receiver.text name site.ancestors =
                some method := by
              split at bound
              · exact Except.ok.inj bound
              · cases outcome : site.valueNames with
                | error failure =>
                    rw [outcome] at bound
                    cases bound
                | ok values =>
                    rw [outcome] at bound
                    have bound := Except.ok.inj bound
                    dsimp only at bound
                    split at bound
                    · cases bound
                    · exact bound
            exact ⟨tree, (name_of_accessedMethod accessed).symm ▸ spelled⟩
  · rw [invocationSymbol, invocationSymbolWith, if_neg access] at bound
    rcases Option.bind_eq_some_iff.1 (Except.ok.inj bound) with ⟨name, spelled, found⟩
    exact ⟨site.node, (name_of_simpleMethod found).symm ▸ spelled⟩

end Model

namespace Tree

theorem head?_withoutVerbatim (text : String) :
    (DottedName.withoutVerbatim text).toList.head? ≠ some '@' := by
  rw [DottedName.withoutVerbatim, String.toList_ofList]
  intro first
  have dropped := List.head?_dropWhile_not (fun char : Char => decide (char = '@')) text.toList
  rw [first] at dropped
  cases dropped

theorem head?_of_simpleName?
    {tree : Tree}
    {name : String}
    (spelled : tree.simpleName? = some name) :
    name.toList.head? ≠ some '@' := by
  rw [simpleName?] at spelled
  split at spelled
  · cases spelled
    exact head?_withoutVerbatim _
  · rcases Option.map_eq_some_iff.1 spelled with ⟨part, -, rfl⟩
    exact head?_withoutVerbatim _
  · cases spelled

end Tree

/--
Two units of one shape whose nodes differ in verbatim marks that do not count
have the same answers at corresponding nodes, whatever the role.  The marks that
count are those in front of declared names, and they put what is declared out of
reach: no name binds to a declared type with a mark in its qualified name, a
short name with a mark stands for nothing, and no call binds to a method whose
name begins with a mark.
-/
theorem Model.verbatim_marks_immaterial
    (catalog : Catalog)
    {left right : Tree}
    (alike : Tree.Pointwise Tree.MarkedAlike left right) :
    List.Forall₂ (fun here there => here.address = there.address ∧ ∀ role,
      (Model.ofTree catalog left).symbolAt role here =
        (Model.ofTree catalog right).symbolAt role there) left.sites right.sites ∧
    (∀ text ancestors found, (Model.ofTree catalog left).resolve text ancestors = some found →
      found.isDeclared = true → IsBare found.type.qualifiedName) ∧
    (∀ short target, ¬ IsBare short → ∀ text ancestors,
      ((Model.ofTree catalog left).naming short target).resolve text ancestors =
        (Model.ofTree catalog left).resolve text ancestors) ∧
    ∀ role site method, (Model.ofTree catalog left).symbolAt role site =
      .ok (some (.method method)) → method.name.toList.head? ≠ some '@' := by
  refine ⟨Tree.likeness_markedAlike.answers_eq Tree.Pointwise.hereditary alike catalog, ?_, ?_, ?_⟩
  · exact fun text ancestors found resolved declared => isBare_of_resolve resolved declared
  · exact fun short target marked text ancestors => resolve_naming _ marked target text ancestors
  · intro role site method bound
    rw [symbolAt] at bound
    split at bound
    · cases outcome : (Model.ofTree catalog left).invocationSymbol site with
      | error failure =>
          rw [outcome] at bound
          cases bound
      | ok found =>
          rw [outcome] at bound
          rcases Option.map_eq_some_iff.1 (Except.ok.inj bound) with ⟨bound, rfl, same⟩
          cases same
          rcases simpleName?_of_invocationSymbol outcome with ⟨tree, spelled⟩
          exact Tree.head?_of_simpleName? spelled
    · rcases Option.map_eq_some_iff.1 (Except.ok.inj bound) with ⟨type, -, same⟩
      cases same

namespace Sample

/-- A unit with marks in front of the names that are used and of the value that is declared. -/
def markedRoot : Tree :=
  phrase .compilationUnit none
    [opening "@Sample",
      classOf "Owner"
        [methodOf "Run" [phrase .parameter none [word .identifier (some .name) "@value"]]
          [callThrough "@Counter" "@Read", callThrough "value" "Read"]]]

/-- The same unit without its marks. -/
def unmarkedRoot : Tree :=
  phrase .compilationUnit none
    [opening "Sample",
      classOf "Owner"
        [methodOf "Run" [phrase .parameter none [word .identifier (some .name) "value"]]
          [callThrough "Counter" "Read", callThrough "value" "Read"]]]

/-- A block namespace with members. -/
def namespaceOf (name : String) (members : List Tree) : Tree :=
  phrase .namespaceBlock none
    [word .identifier (some .name) name,
      phrase (.other "declaration_list") (some .body) members]

/-- A class in the namespace of a listed type, beside one that calls through the type's name. -/
def besideRoot (name : String) : Tree :=
  phrase .compilationUnit none
    [namespaceOf "Sample"
      [classOf name [], classOf "Owner" [methodOf "Run" [] [callThrough "Counter" "Read"]]]]

/-- A call in a class that has a static method of its own. -/
def ownMethodRoot (name : String) : Tree :=
  partsRoot [[staticMethodOf name, methodOf "Run" [] [plainCall "Read"]]]

/-- A call through a short name of a namespace. -/
def shortCallRoot (short : String) : Tree :=
  receiverRoot [shortNaming short "Sample"] "value" "S.Counter"

end Sample

theorem Model.verbatim_marks_immaterial_markedRoot :
    Tree.Pointwise Tree.MarkedAlike markedRoot unmarkedRoot ∧
      List.Forall₂ (fun here there => here.address = there.address ∧ ∀ role,
        (Model.ofTree sampleScanner.catalog markedRoot).symbolAt role here =
          (Model.ofTree sampleScanner.catalog unmarkedRoot).symbolAt role there)
        markedRoot.sites unmarkedRoot.sites ∧
      boundCalls markedRoot =
        [some (.method ⟨"Read", some { space := "Sample", name := "Counter" }, true⟩), none] := by
  have alike : Tree.Pointwise Tree.MarkedAlike markedRoot unmarkedRoot := by decide +kernel
  exact ⟨alike, (verbatim_marks_immaterial sampleScanner.catalog alike).1, by decide +kernel⟩

/-- A mark in front of the name of a declared type, of a static method or of a short name keeps
calls from it. -/
theorem Model.verbatim_mark_counts_where_declared :
    (Tree.Pointwise Tree.AlikeButMarks (besideRoot "Counter") (besideRoot "@Counter") ∧
      boundCalls (besideRoot "Counter") = [none] ∧
      boundCalls (besideRoot "@Counter") =
        [some (.method ⟨"Read", some { space := "Sample", name := "Counter" }, true⟩)]) ∧
    (Tree.Pointwise Tree.AlikeButMarks (ownMethodRoot "Read") (ownMethodRoot "@Read") ∧
      boundCalls (ownMethodRoot "Read") =
        [some (.method (staticMethod (ownClass "Owner") "Read"))] ∧
      boundCalls (ownMethodRoot "@Read") =
        [some (.method ⟨"Read", some { space := "Sample", name := "Counter" }, true⟩)]) ∧
    Tree.Pointwise Tree.AlikeButMarks (shortCallRoot "S") (shortCallRoot "@S") ∧
      boundCalls (shortCallRoot "S") =
        [some (.method ⟨"Read", some { space := "Sample", name := "Counter" }, true⟩)] ∧
      boundCalls (shortCallRoot "@S") = [none] := by
  decide +kernel

end WinrtLint.Source
