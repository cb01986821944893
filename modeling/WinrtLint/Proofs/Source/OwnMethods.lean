import WinrtLint.Proofs.Source.DeclaredTypes

/-!
# Unqualified calls

An unqualified call is first sought among the static methods of the types
declared around it, from the innermost outward, and then among those of the
types whose static members the unit opens.  The table of declared types has the
static methods of the last declaration of every name
(`LastDeclares.mem_staticMethods`), so instance methods and the earlier parts of
a type that is declared several times keep no opened method away.
-/

namespace WinrtLint.Source

open Sample

namespace Tree

/-- The members in the body of a type declaration. -/
def bodyMembers (declaration : Tree) : List Tree :=
  ((declaration.childIn? .body).map namedChildren).getD []

/-- A member is a method of a name, static or not. -/
def IsMethod (member : Tree) (name : String) : Prop :=
  member.kind = .memberDeclaration .method ∧ (member.childIn? .name).map text = some name

/-- A type declaration has a static method of a name. -/
def HasStaticMethod (declaration : Tree) (name : String) : Prop :=
  ∃ member ∈ declaration.bodyMembers, member.IsMethod name ∧ "static" ∈ member.modifiers

instance (member : Tree) (name : String) : Decidable (member.IsMethod name) :=
  inferInstanceAs (Decidable (_ ∧ _))

theorem mem_staticMethodNames {declaration : Tree} {name : String} :
    name ∈ declaration.staticMethodNames ↔ declaration.HasStaticMethod name := by
  rw [staticMethodNames, HasStaticMethod, bodyMembers]
  cases declaration.childIn? .body with
  | none => simp
  | some body =>
      rw [Option.map_some, Option.getD_some]
      constructor
      · intro listed
        rcases List.mem_filterMap.1 listed with ⟨member, inBody, named⟩
        split at named
        · rename_i isStatic
          rw [Bool.and_eq_true, decide_eq_true_eq, List.contains_iff_mem] at isStatic
          exact ⟨member, inBody, ⟨isStatic.1, named⟩, isStatic.2⟩
        · cases named
      · rintro ⟨member, inBody, ⟨isMethod, named⟩, isStatic⟩
        refine List.mem_filterMap.2 ⟨member, inBody, ?_⟩
        rw [if_pos (by simp [isMethod, isStatic])]
        exact named

/-- A declared type has the static methods of the declaration that it was read from. -/
theorem staticMethods_of_mem_declaredAlong
    {sites : List Site}
    {declarations : Declarations}
    {site : Site}
    {type : CatalogType}
    (listed : (site, type) ∈ declarations.declaredAlong sites) :
    type.staticMethods = NameSet.ofList site.node.staticMethodNames := by
  induction sites generalizing declarations with
  | nil => cases listed
  | cons first rest induction =>
      rw [Declarations.declaredAlong, List.mem_append, Option.mem_toList,
        Option.map_eq_some_iff] at listed
      rcases listed with ⟨read, declared, same⟩ | later
      · cases same
        rw [Declarations.declared?] at declared
        split at declared
        · rcases Option.map_eq_some_iff.1 declared with ⟨name, -, rfl⟩
          rfl
        · cases declared
      · exact induction later

theorem LastDeclares.mem_staticMethods
    {root : Tree}
    {qualified name : String}
    {site : Site}
    {type : CatalogType}
    (declared : root.LastDeclares qualified site type) :
    name ∈ type.staticMethods ↔ site.node.HasStaticMethod name := by
  rcases declared with ⟨before, after, order, -, -⟩
  have listed : (site, type) ∈ root.typeDeclarations := by
    rw [order]
    simp
  rw [staticMethods_of_mem_declaredAlong listed, NameSet.mem_ofList, mem_staticMethodNames]

/-- The last declaration of a qualified name has a static method. -/
def LastHasStatic (root : Tree) (qualified method : String) : Prop :=
  ∃ site type, root.LastDeclares qualified site type ∧ site.node.HasStaticMethod method

theorem lastHasStatic_iff {root : Tree} {qualified method : String} :
    root.LastHasStatic qualified method ↔
      ∃ type, (Declarations.ofTree root).types.get? qualified = some type ∧
        method ∈ type.staticMethods := by
  constructor
  · rintro ⟨site, type, declared, having⟩
    exact ⟨type, get?_types_ofTree.2 ⟨site, declared⟩, declared.mem_staticMethods.2 having⟩
  · rintro ⟨type, entered, having⟩
    rcases get?_types_ofTree.1 entered with ⟨site, declared⟩
    exact ⟨site, type, declared, declared.mem_staticMethods.1 having⟩

end Tree

namespace Model

/-- The qualified names of the types around a site, innermost first. -/
def enclosingNames (model : Model) (ancestors : List Tree) : List String :=
  (List.range (enclosingTypes ancestors).length).reverse.map fun last =>
    qualify (model.declarations.namespaceAt ancestors)
      (Text.joinStrings "." ((enclosingTypes ancestors).take (last + 1)))

variable {model : Model} {ancestors : List Tree} {method : String}

theorem enclosingDeclared_eq :
    model.enclosingDeclared ancestors =
      (model.enclosingNames ancestors).filterMap model.declarations.types.get? := by
  rw [enclosingNames, List.filterMap_map]
  rfl

/-- A type is found under a name, has a static method, and no type found under an earlier one of
the names has it. -/
def FirstWith
    (find : String → Option CatalogType)
    (names : List String)
    (method name : String)
    (type : CatalogType) :
    Prop :=
  ∃ before after, names = before ++ name :: after ∧ find name = some type ∧
    method ∈ type.staticMethods ∧
      ∀ earlier ∈ before, ∀ other, find earlier = some other → method ∉ other.staticMethods

theorem find?_filterMap_eq_some
    {find : String → Option CatalogType}
    {names : List String}
    {type : CatalogType} :
    (names.filterMap find).find? (·.staticMethods.contains method) = some type ↔
      ∃ name, FirstWith find names method name type := by
  rw [List.find?_filterMap, Option.bind_eq_some_iff]
  constructor
  · rintro ⟨name, first, found⟩
    rcases List.find?_eq_some_iff_append.1 first with ⟨having, before, after, order, lacking⟩
    rw [found, Option.any_some] at having
    refine ⟨name, before, after, order, found, NameSet.contains_iff.1 having, ?_⟩
    intro earlier member other located listed
    have absent := lacking earlier member
    rw [located, Option.any_some, NameSet.contains_iff.2 listed] at absent
    cases absent
  · rintro ⟨name, before, after, order, found, having, lacking⟩
    refine ⟨name, List.find?_eq_some_iff_append.2 ⟨?_, before, after, order, ?_⟩, found⟩
    · rw [found, Option.any_some]
      exact NameSet.contains_iff.2 having
    · intro earlier member
      cases located : find earlier with
      | none => rfl
      | some other =>
          have absent := lacking earlier member other located
          rw [← NameSet.contains_iff, Bool.not_eq_true] at absent
          rw [Option.any_some, absent]
          rfl

theorem find?_filterMap_eq_none
    {find : String → Option CatalogType}
    {names : List String} :
    (names.filterMap find).find? (·.staticMethods.contains method) = none ↔
      ∀ name ∈ names, ∀ type, find name = some type → method ∉ type.staticMethods := by
  rw [List.find?_eq_none]
  constructor
  · intro lacking name member type found having
    exact lacking type (List.mem_filterMap.2 ⟨name, member, found⟩) (NameSet.contains_iff.2 having)
  · intro lacking type listed having
    rcases List.mem_filterMap.1 listed with ⟨name, member, found⟩
    exact lacking name member type found (NameSet.contains_iff.1 having)

theorem symbolAt_simpleName
    {access : Site}
    (named : access.node.simpleName? = some method) :
    model.symbolAt (some .expression) access =
      .ok ((model.simpleMethod method access.ancestors).map Symbol.method) := by
  have noAccess : access.node.kind ≠ .memberAccess := by
    intro isAccess
    rw [Tree.simpleName?, isAccess] at named
    cases named
  rw [symbolAt, if_pos rfl, invocationSymbol, invocationSymbolWith, if_neg noAccess, named]
  rfl

/-- The type that an opened name stands for. -/
def opened? (model : Model) (target : String) : Option CatalogType :=
  (model.lookup target).map (·.type)

theorem simpleMethod_eq :
    model.simpleMethod method ancestors =
      ((((model.enclosingNames ancestors).filterMap model.declarations.types.get?).find?
          (·.staticMethods.contains method)).or
        ((model.declarations.staticUsings.filterMap model.opened?).find?
          (·.staticMethods.contains method))).map fun type => staticMethod type method := by
  rw [simpleMethod, enclosingDeclared_eq]
  rfl

/-- Among the types around a site, the innermost whose last declaration has a static method gives
the method. -/
theorem simpleMethod_of_lastHasStatic
    (catalog : Catalog)
    {root : Tree}
    {name : String}
    (around : name ∈ (Model.ofTree catalog root).enclosingNames ancestors)
    (hasStatic : root.LastHasStatic name method) :
    ∃ inner own outer site type,
      (Model.ofTree catalog root).enclosingNames ancestors = inner ++ own :: outer ∧
      (∀ nearer ∈ inner, ¬ root.LastHasStatic nearer method) ∧
      root.LastDeclares own site type ∧ site.node.HasStaticMethod method ∧
      (Model.ofTree catalog root).simpleMethod method ancestors =
        some (staticMethod type method) := by
  rw [simpleMethod_eq]
  cases own : (((Model.ofTree catalog root).enclosingNames ancestors).filterMap
      (Model.ofTree catalog root).declarations.types.get?).find?
        (·.staticMethods.contains method) with
  | none =>
      rcases Tree.lastHasStatic_iff.1 hasStatic with ⟨type, entered, having⟩
      exact absurd having (find?_filterMap_eq_none.1 own name around type entered)
  | some type =>
      rcases find?_filterMap_eq_some.1 own with
        ⟨first, inner, outer, order, entered, having, lacking⟩
      rcases Tree.get?_types_ofTree.1 entered with ⟨site, declared⟩
      refine ⟨inner, first, outer, site, type, order, ?_, declared,
        declared.mem_staticMethods.1 having, rfl⟩
      intro nearer member nearerHas
      rcases Tree.lastHasStatic_iff.1 nearerHas with ⟨other, found, listed⟩
      exact lacking nearer member other found listed

/-- Where no type around a site has a static method in its last declaration, the opened types are
left to give it. -/
theorem simpleMethod_of_not_lastHasStatic
    (catalog : Catalog)
    {root : Tree}
    (absent : ∀ name ∈ (Model.ofTree catalog root).enclosingNames ancestors,
      ¬ root.LastHasStatic name method) :
    (Model.ofTree catalog root).simpleMethod method ancestors =
      (((Model.ofTree catalog root).declarations.staticUsings.filterMap
        (Model.ofTree catalog root).opened?).find? (·.staticMethods.contains method)).map
          fun type => staticMethod type method := by
  have noOwn : (((Model.ofTree catalog root).enclosingNames ancestors).filterMap
      (Model.ofTree catalog root).declarations.types.get?).find?
        (·.staticMethods.contains method) = none := by
    apply find?_filterMap_eq_none.2
    intro name around type entered having
    exact absent name around (Tree.lastHasStatic_iff.2 ⟨type, entered, having⟩)
  rw [simpleMethod_eq, noOwn, Option.none_or]

/--
An unqualified call binds to the innermost type around it whose last declaration
has a static method of that name, whatever the unit opens and the library has.
Where no such type stands around it, it binds to the first of the opened types
that has the method, and to nothing if none has it.
-/
theorem own_static_method_hides_imports
    (catalog : Catalog)
    (root : Tree)
    {access : Site}
    {method : String}
    (named : access.node.simpleName? = some method) :
    ((∃ name ∈ (Model.ofTree catalog root).enclosingNames access.ancestors,
        root.LastHasStatic name method) →
      ∃ inner own outer site type,
        (Model.ofTree catalog root).enclosingNames access.ancestors = inner ++ own :: outer ∧
        (∀ nearer ∈ inner, ¬ root.LastHasStatic nearer method) ∧
        root.LastDeclares own site type ∧ site.node.HasStaticMethod method ∧
        (Model.ofTree catalog root).symbolAt (some .expression) access =
          .ok (some (.method (staticMethod type method)))) ∧
    ((∀ name ∈ (Model.ofTree catalog root).enclosingNames access.ancestors,
        ¬ root.LastHasStatic name method) →
      (∀ target type, FirstWith (Model.ofTree catalog root).opened?
          (Model.ofTree catalog root).declarations.staticUsings method target type →
        (Model.ofTree catalog root).symbolAt (some .expression) access =
          .ok (some (.method (staticMethod type method)))) ∧
      ((∀ target ∈ (Model.ofTree catalog root).declarations.staticUsings, ∀ type,
          (Model.ofTree catalog root).opened? target = some type →
            method ∉ type.staticMethods) →
        (Model.ofTree catalog root).symbolAt (some .expression) access = .ok none)) := by
  rw [symbolAt_simpleName named]
  constructor
  · rintro ⟨name, around, hasStatic⟩
    rcases simpleMethod_of_lastHasStatic catalog around hasStatic with
      ⟨inner, own, outer, site, type, order, innermost, declared, ofType, bound⟩
    refine ⟨inner, own, outer, site, type, order, innermost, declared, ofType, ?_⟩
    rw [bound]
    rfl
  · intro absent
    rw [simpleMethod_of_not_lastHasStatic catalog absent]
    constructor
    · intro target type first
      rw [find?_filterMap_eq_some.2 ⟨target, first⟩]
      rfl
    · intro lacking
      rw [find?_filterMap_eq_none.2 lacking]
      rfl

end Model

namespace Sample

/-- A directive that opens the static members of a type. -/
def staticOpening (target : String) : Tree :=
  phrase .usingDirective none
    [.node { kind := .staticWord, text := .pure "static", isNamed := false } [],
      word .qualifiedName none target]

/-- A static method. -/
def staticMethodOf (name : String) : Tree :=
  phrase (.memberDeclaration .method) none
    [word .modifier none "static", word .identifier (some .name) name]

/-- An unqualified call. -/
def plainCall (method : String) : Tree :=
  phrase .invocation none [word .identifier (some .function) method]

/-- A class in several parts, in a unit that opens the static members of a listed type. -/
def partsRoot (parts : List (List Tree)) : Tree :=
  phrase .compilationUnit none (staticOpening "Sample.Counter" :: parts.map (classOf "Owner"))

/-- A call in a class that has a static method of its own. -/
def staticPartRoot : Tree :=
  partsRoot [[staticMethodOf "Read", methodOf "Run" [] [plainCall "Read"]]]

/-- A call in a class that has an instance method of its own. -/
def instancePartRoot : Tree :=
  partsRoot [[methodOf "Read" [] [], methodOf "Run" [] [plainCall "Read"]]]

/-- A call in a class whose static method stands in an earlier part. -/
def earlierPartRoot : Tree :=
  partsRoot [[staticMethodOf "Read"], [methodOf "Run" [] [plainCall "Read"]]]

end Sample

theorem Model.own_static_method_hides_imports_staticPartRoot :
    (Model.ofTree sampleScanner.catalog staticPartRoot).declarations.staticUsings =
        ["Sample.Counter"] ∧
      ((Model.ofTree sampleScanner.catalog staticPartRoot).opened? "Sample.Counter").map
        (·.staticMethods.contains "Read") = some true ∧
      ∃ call ∈ staticPartRoot.sites, ∃ access ∈ call.childIn? .function,
        (Model.ofTree sampleScanner.catalog staticPartRoot).symbolAt (some .expression) access =
          .ok (some (.method (staticMethod (ownClass "Owner") "Read"))) := by
  let call := staticPartRoot.sites.get ⟨14, by decide +kernel⟩
  let access := (call.childIn? .function).get (by decide +kernel)
  have around : (Model.ofTree sampleScanner.catalog staticPartRoot).enclosingNames
      access.ancestors = ["Owner"] := by decide +kernel
  have recorded : ((Declarations.ofTree staticPartRoot).types.get? "Owner").map
      (fun type => (staticMethod type "Read", type.staticMethods.contains "Read")) =
        some (staticMethod (ownClass "Owner") "Read", true) := by decide +kernel
  rcases Option.map_eq_some_iff.1 recorded with ⟨type, entered, same⟩
  rcases Prod.mk.inj same with ⟨sameMethod, having⟩
  have hasStatic : staticPartRoot.LastHasStatic "Owner" "Read" :=
    Tree.lastHasStatic_iff.2 ⟨type, entered, NameSet.contains_iff.1 having⟩
  refine ⟨by decide +kernel, by decide +kernel, call, List.get_mem _ _, access,
    Option.get_mem _, ?_⟩
  rcases (own_static_method_hides_imports sampleScanner.catalog staticPartRoot
      (show access.node.simpleName? = some "Read" by decide +kernel)).1
    ⟨"Owner", by rw [around]; exact List.mem_cons_self, hasStatic⟩ with
      ⟨inner, own, outer, site, found, order, -, declared, -, bound⟩
  have isOwner : own = "Owner" := by
    have listed : own ∈ inner ++ own :: outer := by simp
    rw [← order, around] at listed
    exact List.mem_singleton.1 listed
  have again := Tree.get?_types_ofTree.2 ⟨site, declared⟩
  rw [isOwner, entered] at again
  cases again
  rw [bound, sameMethod]

/-- A call of a method that some declaration of the class around it has is taken for a call of a
method of the opened type. -/
def Sample.TakenForImport (root : Tree) : Prop :=
  ∃ call ∈ root.sites, call.node.kind = .invocation ∧ ∃ access ∈ call.childIn? .function,
    access.node.simpleName? = some "Read" ∧
    (Model.ofTree sampleScanner.catalog root).enclosingNames access.ancestors = ["Owner"] ∧
    (∃ declaration ∈ root.typeDeclarations, declaration.2.qualifiedName = "Owner" ∧
      ∃ member ∈ declaration.1.node.bodyMembers, member.IsMethod "Read") ∧
    ((Model.ofTree sampleScanner.catalog root).symbolAt (some .expression) access).toOption =
      some (some (.method ⟨"Read", some { space := "Sample", name := "Counter" }, true⟩))

instance (root : Tree) : Decidable (TakenForImport root) :=
  inferInstanceAs (Decidable (∃ call ∈ root.sites, _))

/-- Neither an instance method nor a static method in an earlier part keeps the opened one away. -/
theorem Model.own_method_taken_for_import :
    TakenForImport instancePartRoot ∧ TakenForImport earlierPartRoot := by
  decide +kernel

end WinrtLint.Source
