import WinrtLint.Proofs.Source.Names
import WinrtLint.Proofs.Source.VisibleValues

/-!
# The types that a unit declares

Reading a unit enters its type declarations one after another under their
qualified names, so the table of declared types holds the last declaration of
every name (`get?_types_ofTree`).

A single identifier that neither an alias nor a namespace around it claims is
sought in the opened namespaces before the unit's own types of the global
namespace, and not at all inside the types around it.  So a declared type is
what the identifier binds to only where no opened namespace takes it away
(`declared_type_bound_iff`).  A type declared inside others is reached from
below them by its name from the outermost of them on; a library type of the same
qualified name never matters.
-/

namespace WinrtLint.Source

open Sample

namespace Declarations

/-- The type that a site declares, read behind what the declarations hold. -/
def declared? (declarations : Declarations) (site : Site) :
    Option CatalogType :=
  match site.node.kind with
  | .typeDeclaration _ =>
      (site.node.childIn? .name).map fun name =>
        declarations.declaredType site.node name site.ancestors
  | _ => none

/-- A using directive leaves the declared types and the namespace of the file alone. -/
theorem types_and_fileNamespace_readUsing
    (declarations : Declarations)
    (directive : Tree) :
    (declarations.readUsing directive).types = declarations.types ∧
      (declarations.readUsing directive).fileNamespace = declarations.fileNamespace := by
  rw [readUsing]
  split
  · exact ⟨rfl, rfl⟩
  · split
    · exact ⟨rfl, rfl⟩
    · split <;> exact ⟨rfl, rfl⟩

theorem types_read (declarations : Declarations) (site : Site) :
    (declarations.read site).types =
      match declarations.declared? site with
      | none => declarations.types
      | some type => declarations.types.insert type.qualifiedName type := by
  cases kind : site.node.kind with
  | usingDirective =>
      rw [read, declared?, kind]
      exact (types_and_fileNamespace_readUsing declarations site.node).1
  | fileScopedNamespace =>
      simp only [read, declared?, kind]
      cases site.node.childIn? .name <;> rfl
  | typeDeclaration form =>
      simp only [read, readType, declared?, kind]
      cases site.node.childIn? .name <;> rfl
  | _ => simp only [read, declared?, kind]

/-- Whatever is read, the namespace of the file is a plain name. -/
theorem isDotted_fileNamespace_read
    {declarations : Declarations}
    (plain : ∀ space ∈ declarations.fileNamespace, DottedName.isDotted space.toList = true)
    (site : Site) :
    ∀ space ∈ (declarations.read site).fileNamespace,
      DottedName.isDotted space.toList = true := by
  intro space member
  cases kind : site.node.kind with
  | usingDirective =>
      rw [read, kind] at member
      rw [(types_and_fileNamespace_readUsing declarations site.node).2] at member
      exact plain space member
  | fileScopedNamespace =>
      simp only [read, kind] at member
      cases named : site.node.childIn? .name with
      | none =>
          rw [named] at member
          exact plain space member
      | some name =>
          rw [named] at member
          exact DottedName.isDotted_of_ofText? member
  | typeDeclaration form =>
      simp only [read, readType, kind] at member
      cases named : site.node.childIn? .name <;> rw [named] at member <;>
        exact plain space member
  | _ =>
      simp only [read, kind] at member
      exact plain space member

theorem isDotted_fileNamespace_ofTree (root : Tree) :
    ∀ space ∈ (ofTree root).fileNamespace, DottedName.isDotted space.toList = true := by
  have along : ∀ (sites : List Site) (declarations : Declarations),
      (∀ space ∈ declarations.fileNamespace, DottedName.isDotted space.toList = true) →
      ∀ space ∈ (sites.foldl read declarations).fileNamespace,
        DottedName.isDotted space.toList = true := by
    intro sites
    induction sites with
    | nil => exact fun _ plain => plain
    | cons site rest induction =>
        intro declarations plain
        exact induction _ (isDotted_fileNamespace_read plain site)
  apply along
  intro space member
  cases member

/-- The types that sites declare when they are read one after another, each with its site. -/
def declaredAlong (declarations : Declarations) :
    List Site → List (Site × CatalogType)
  | [] => []
  | site :: rest =>
      ((declarations.declared? site).map fun type => (site, type)).toList ++
        (declarations.read site).declaredAlong rest

theorem get?_types_foldl
    (sites : List Site)
    (declarations : Declarations)
    (qualified : String) :
    (sites.foldl read declarations).types.get? qualified =
      (((declarations.declaredAlong sites).reverse.find? fun entry =>
        entry.2.qualifiedName = qualified).map (·.2)).or (declarations.types.get? qualified) := by
  induction sites generalizing declarations with
  | nil => rfl
  | cons site rest induction =>
      -- From the end, what the later sites declare is searched before what this one declares.
      rw [List.foldl_cons, induction, types_read, declaredAlong, List.reverse_append,
        List.find?_append]
      cases declarations.declared? site with
      | none => simp
      | some type =>
          rw [Dictionary.get?_insert]
          cases (declaredAlong (declarations.read site) rest).reverse.find? fun entry =>
              entry.2.qualifiedName = qualified with
          | some later => rfl
          | none => by_cases same : type.qualifiedName = qualified <;> simp [same]

end Declarations

namespace Tree

/-- The types that a unit declares in the order in which it is read, each with its site. -/
def typeDeclarations (root : Tree) : List (Site × CatalogType) :=
  Declarations.declaredAlong {} root.sites

/-- A site holds the last declaration of a qualified name in a unit, which declares a type. -/
def LastDeclares
    (root : Tree)
    (qualified : String)
    (site : Site)
    (type : CatalogType) :
    Prop :=
  ∃ before after, root.typeDeclarations = before ++ (site, type) :: after ∧
    type.qualifiedName = qualified ∧ ∀ later ∈ after, later.2.qualifiedName ≠ qualified

/-- The table of declared types has the last declaration of every qualified name. -/
theorem get?_types_ofTree
    {root : Tree}
    {qualified : String}
    {type : CatalogType} :
    (Declarations.ofTree root).types.get? qualified = some type ↔
      ∃ site, root.LastDeclares qualified site type := by
  rw [Declarations.ofTree, Declarations.get?_types_foldl, Dictionary.get?_empty, Option.or_none,
    Option.map_eq_some_iff]
  constructor
  · rintro ⟨⟨site, found⟩, last, rfl⟩
    rcases List.find?_eq_some_iff_append.1 last with ⟨named, after, before, order, others⟩
    refine ⟨site, before.reverse, after.reverse, ?_, by simpa using named, ?_⟩
    · rw [typeDeclarations, ← List.reverse_reverse (Declarations.declaredAlong _ _), order]
      simp
    · intro later member
      simpa using others later (List.mem_reverse.1 member)
  · rintro ⟨site, before, after, order, named, others⟩
    refine ⟨(site, type), ?_, rfl⟩
    apply List.find?_eq_some_iff_append.2
    refine ⟨by simpa using named, after.reverse, before.reverse, ?_, ?_⟩
    · rw [typeDeclarations] at order
      rw [order]
      simp
    · intro later member
      simpa using others later (List.mem_reverse.1 member)

end Tree

/-! ## Namespaces around a site -/

theorem segments_ne_empty
    {name segment : String}
    (dotted : DottedName.isDotted name.toList = true)
    (member : segment ∈ DottedName.segments name) :
    segment ≠ "" := by
  rcases List.mem_map.1 member with ⟨piece, among, rfl⟩
  intro empty
  rw [DottedName.isDotted, List.all_eq_true] at dotted
  have identifier := dotted piece among
  rw [String.ofList_eq_empty_iff.1 empty] at identifier
  cases identifier

theorem joinStrings_ne_empty
    {first : String}
    (nonempty : first ≠ "")
    (separator : String)
    (more : List String) :
    Text.joinStrings separator (first :: more) ≠ "" := by
  cases more with
  | nil => exact nonempty
  | cons next more =>
      intro empty
      rw [Text.joinStrings_cons_cons, ← String.toList_inj] at empty
      simp at empty
      exact nonempty empty.1

theorem joinStrings_take_ne_empty
    {names : List String}
    (plain : ∀ name ∈ names, DottedName.isDotted name.toList = true)
    {last : Nat}
    (inRange : last ∈ (List.range (names.flatMap DottedName.segments).length).reverse) :
    Text.joinStrings "." ((names.flatMap DottedName.segments).take (last + 1)) ≠ "" := by
  cases segments : names.flatMap DottedName.segments with
  | nil =>
      rw [segments] at inRange
      cases inRange
  | cons first more =>
      rw [List.take_succ_cons]
      apply joinStrings_ne_empty
      have listed : first ∈ names.flatMap DottedName.segments := segments ▸ List.mem_cons_self
      rcases List.mem_flatMap.1 listed with ⟨name, among, member⟩
      exact segments_ne_empty (plain name among) member

theorem enclosingNamespaces_ne_empty
    {fileNamespace : Option String}
    (plain : ∀ space ∈ fileNamespace, DottedName.isDotted space.toList = true)
    {ancestors : List Tree}
    {space : String}
    (member : space ∈ enclosingNamespaces fileNamespace ancestors) :
    space ≠ "" := by
  have plainInner : ∀ name ∈
      ((ancestors.filter (·.kind.opensNamespace)).filterMap Tree.namespaceName?).reverse,
      DottedName.isDotted name.toList = true := by
    intro name listed
    rcases List.mem_filterMap.1 (List.mem_reverse.1 listed) with ⟨opener, -, named⟩
    rcases Option.bind_eq_some_iff.1 named with ⟨part, -, spelled⟩
    exact DottedName.isDotted_of_ofText? spelled
  simp only [enclosingNamespaces] at member
  rcases List.mem_map.1 member with ⟨last, inRange, rfl⟩
  split at inRange
  case isTrue insideFileScoped =>
    rw [if_pos insideFileScoped]
    exact joinStrings_take_ne_empty plainInner inRange
  case isFalse outsideFileScoped =>
    rw [if_neg outsideFileScoped]
    refine joinStrings_take_ne_empty ?_ inRange
    intro name listed
    rcases List.mem_append.1 listed with ofFile | ofBlock
    · exact plain name (Option.mem_toList.1 ofFile)
    · exact plainInner name ofBlock

namespace Model

variable {root : Tree} {site : Site} {type : CatalogType}

/-- A qualified name stands for a type of the unit exactly if the unit declares one under it. -/
theorem lookup_eq_declared
    {catalog : Catalog}
    {qualified : String} :
    (Model.ofTree catalog root).lookup qualified = some ⟨type, true⟩ ↔
      ∃ site, root.LastDeclares qualified site type := by
  rw [← Tree.get?_types_ofTree, lookup]
  change _ ↔ (Model.ofTree catalog root).declarations.types.get? qualified = some type
  cases (Model.ofTree catalog root).declarations.types.get? qualified <;> simp

theorem lookup_of_lastDeclares
    (catalog : Catalog)
    {qualified : String}
    (declared : root.LastDeclares qualified site type) :
    (Model.ofTree catalog root).lookup qualified = some ⟨type, true⟩ :=
  lookup_eq_declared.2 ⟨site, declared⟩

/-! ## Single identifiers -/

/-- An opened namespace is the first of them that has a type of a name. -/
def FirstOpened (model : Model) (name space : String) : Prop :=
  ∃ before after, model.declarations.usings = before ++ space :: after ∧
    ¬ model.Lacks (DottedName.under space name) ∧
    ∀ earlier ∈ before, model.Lacks (DottedName.under earlier name)

theorem FirstOpened.mem
    {model : Model}
    {name space : String}
    (first : model.FirstOpened name space) :
    space ∈ model.declarations.usings := by
  rcases first with ⟨before, after, order, -⟩
  rw [order]
  exact List.mem_append_right before List.mem_cons_self

theorem lookupUnder_of_firstOpened
    {model : Model}
    {name space : String}
    (first : model.FirstOpened name space) :
    ∃ found, model.lookupUnder name model.declarations.usings = some found ∧
      model.lookup (DottedName.under space name) = some found := by
  rcases first with ⟨before, after, order, having, lacking⟩
  rw [← lookup_eq_none] at having
  rcases Option.ne_none_iff_exists'.1 having with ⟨found, located⟩
  refine ⟨found, ?_, located⟩
  apply List.findSome?_eq_some_iff.2
  exact ⟨before, space, after, order, located,
    fun earlier member => lookup_eq_none.2 (lacking earlier member)⟩

theorem firstOpened_of_lookupUnder
    {model : Model}
    {name : String}
    {found : Found}
    (imported : model.lookupUnder name model.declarations.usings = some found) :
    ∃ space, model.FirstOpened name space ∧
      model.lookup (DottedName.under space name) = some found := by
  rcases List.findSome?_eq_some_iff.1 imported with
    ⟨before, space, after, order, located, lacking⟩
  refine ⟨space, ⟨before, after, order, ?_, ?_⟩, located⟩
  · rw [← lookup_eq_none, located]
    exact Option.some_ne_none found
  · exact fun earlier member => lookup_eq_none.1 (lacking earlier member)

/-- A single identifier that nothing around it claims is sought in the opened namespaces, and then
in the global namespace. -/
theorem resolve_of_identifier
    {model : Model}
    {name : String}
    {ancestors : List Tree}
    (single : DottedName.isIdentifier name.toList = true)
    (unaliased : model.declarations.aliases.get? name = none)
    (notEnclosed : ∀ space ∈ model.declarations.namespacesAt ancestors,
      model.Lacks (DottedName.under space name)) :
    model.resolve name ancestors =
      (model.lookupUnder name model.declarations.usings).or (model.lookup name) := by
  have dotted := DottedName.isDotted_of_isIdentifier single
  rw [resolve, DottedName.ofText?_of_isDotted dotted, Option.bind_some, resolveName,
    DottedName.split_of_isIdentifier single]
  simp only [unaliased, lookupUnder_eq_none.2 notEnclosed, Option.isNone_none, if_true,
    Option.none_or]

/-- A declared type is found under its qualified name and under no other. -/
theorem eq_of_lookup_eq_declared
    {catalog : Catalog}
    {qualified other : String}
    (declared : root.LastDeclares qualified site type)
    (found : (Model.ofTree catalog root).lookup other = some ⟨type, true⟩) :
    qualified = other := by
  rcases lookup_eq_declared.1 found with ⟨_, -, -, -, isOther, -⟩
  rcases declared with ⟨-, -, -, isQualified, -⟩
  exact isQualified.symm.trans isOther

/-- A search in the opened namespaces and then in the global one ends at a declared type in two
cases only. -/
theorem sought_eq_declared_iff
    {catalog : Catalog}
    {name qualified : String}
    (declared : root.LastDeclares qualified site type) :
    ((Model.ofTree catalog root).lookupUnder name
        (Model.ofTree catalog root).declarations.usings).or
      ((Model.ofTree catalog root).lookup name) = some ⟨type, true⟩ ↔
      (qualified = name ∧
        ∀ space ∈ (Model.ofTree catalog root).declarations.usings,
          (Model.ofTree catalog root).Lacks (DottedName.under space name)) ∨
      ∃ space, qualified = DottedName.under space name ∧
        (Model.ofTree catalog root).FirstOpened name space := by
  have own := lookup_of_lastDeclares catalog declared
  cases imported : (Model.ofTree catalog root).lookupUnder name
      (Model.ofTree catalog root).declarations.usings with
  | none =>
      have lacking := lookupUnder_eq_none.1 imported
      rw [Option.none_or]
      constructor
      · intro found
        exact Or.inl ⟨eq_of_lookup_eq_declared declared found, lacking⟩
      · rintro (⟨rfl, -⟩ | ⟨space, -, first⟩)
        · exact own
        · rcases lookupUnder_of_firstOpened first with ⟨found, present, -⟩
          rw [imported] at present
          cases present
  | some found =>
      rw [Option.some_or]
      constructor
      · rintro ⟨rfl⟩
        rcases firstOpened_of_lookupUnder imported with ⟨space, first, located⟩
        exact Or.inr ⟨space, eq_of_lookup_eq_declared declared located, first⟩
      · rintro (⟨-, lacking⟩ | ⟨space, rfl, first⟩)
        · rw [lookupUnder_eq_none.2 lacking] at imported
          cases imported
        · rcases lookupUnder_of_firstOpened first with ⟨other, present, located⟩
          rw [← imported, present, ← located, own]

/-! ## Names of several identifiers -/

/-- A name of several identifiers under which the innermost namespace has a declared type binds
to that type. -/
theorem resolveName_of_innermost
    (catalog : Catalog)
    {name : String}
    {ancestors : List Tree}
    (unaliased : (Model.ofTree catalog root).declarations.aliases.get?
      (DottedName.head name) = none)
    (several : '.' ∈ name.toList)
    (declared : root.LastDeclares
      (qualify ((Model.ofTree catalog root).declarations.namespaceAt ancestors) name) site type) :
    (Model.ofTree catalog root).resolveName name ancestors = some ⟨type, true⟩ := by
  have single : (DottedName.split name).2.isNone = false := by
    have cut : (Text.cutFirst '.' name.toList).2 ≠ none :=
      fun none => Text.cutFirst_snd_eq_none.1 none several
    simpa [DottedName.split, Option.isNone_eq_false_iff, Option.isSome_iff_ne_none] using cut
  have found := lookup_of_lastDeclares catalog declared
  rw [Declarations.namespaceAt] at found
  have noAlias : (Model.ofTree catalog root).declarations.aliases.get?
      (DottedName.split name).1 = none := unaliased
  simp only [resolveName, noAlias, single, Bool.false_eq_true, if_false]
  cases spaces : (Model.ofTree catalog root).declarations.namespacesAt ancestors with
  | nil =>
      rw [spaces] at found
      exact found
  | cons space more =>
      have nonempty : space ≠ "" := by
        apply enclosingNamespaces_ne_empty (Declarations.isDotted_fileNamespace_ofTree root)
        show space ∈ (Model.ofTree catalog root).declarations.namespacesAt ancestors
        rw [spaces]
        exact List.mem_cons_self
      rw [spaces, List.head?_cons, Option.getD_some, qualify, if_neg nonempty] at found
      have first : (Model.ofTree catalog root).lookupUnder name (space :: more) =
          some ⟨type, true⟩ := by
        rw [lookupUnder, List.findSome?_cons]
        rw [DottedName.under, found]
      rw [first]
      rfl

theorem dot_mem_joinStrings
    {first : String}
    {more : List String}
    (last : String) :
    '.' ∈ (Text.joinStrings "." (first :: more ++ [last])).toList := by
  cases more with
  | nil => simp [Text.joinStrings]
  | cons next more =>
      rw [List.cons_append, List.cons_append, Text.joinStrings_cons_cons]
      simp

/-- The name of a type inside the types around a site, told from the outermost of them on. -/
def nestedName (ancestors : List Tree) (count : Nat) (name : String) : String :=
  Text.joinStrings "." ((enclosingTypes ancestors).take (count + 1) ++ [name])

theorem dot_mem_nestedName
    {ancestors : List Tree}
    {count : Nat}
    (bounded : count < (enclosingTypes ancestors).length)
    (name : String) :
    '.' ∈ (nestedName ancestors count name).toList := by
  rw [nestedName]
  cases types : enclosingTypes ancestors with
  | nil =>
      rw [types] at bounded
      cases bounded
  | cons first more =>
      rw [List.take_succ_cons]
      exact dot_mem_joinStrings name

/--
What a single identifier binds to that neither an alias nor a namespace around
it claims.  The first opened namespace that has a type of it gives the type,
even one of the library.  So a type that the unit declares is the one in two
cases only: it stands in the global namespace and no opened namespace has the
name, or it stands in the first opened namespace that has it.  Below the types
inside which it is declared, a type is bound by its name from the outermost of
them on, whatever the library has and whichever namespaces are opened.
-/
theorem declared_type_bound_iff
    (catalog : Catalog)
    (root : Tree)
    (ancestors : List Tree)
    {name : String}
    (single : DottedName.isIdentifier name.toList = true) :
    ((Model.ofTree catalog root).declarations.aliases.get? name = none →
      (∀ space ∈ (Model.ofTree catalog root).declarations.namespacesAt ancestors,
        (Model.ofTree catalog root).Lacks (DottedName.under space name)) →
      (∀ space, (Model.ofTree catalog root).FirstOpened name space →
        ∃ found,
          (Model.ofTree catalog root).resolve name ancestors = some found ∧
          (Model.ofTree catalog root).lookup (DottedName.under space name) = some found) ∧
      ∀ qualified site type, root.LastDeclares qualified site type →
        ((Model.ofTree catalog root).resolve name ancestors = some ⟨type, true⟩ ↔
          (qualified = name ∧
            ∀ space ∈ (Model.ofTree catalog root).declarations.usings,
              (Model.ofTree catalog root).Lacks (DottedName.under space name)) ∨
          ∃ space, qualified = DottedName.under space name ∧
            (Model.ofTree catalog root).FirstOpened name space)) ∧
    ∀ count < (enclosingTypes ancestors).length, ∀ site type,
      DottedName.isDotted (nestedName ancestors count name).toList = true →
      (Model.ofTree catalog root).declarations.aliases.get?
        (DottedName.head (nestedName ancestors count name)) = none →
      root.LastDeclares
        (qualify ((Model.ofTree catalog root).declarations.namespaceAt ancestors)
          (nestedName ancestors count name)) site type →
      (Model.ofTree catalog root).resolve (nestedName ancestors count name) ancestors =
        some ⟨type, true⟩ := by
  constructor
  · intro unaliased notEnclosed
    have order := resolve_of_identifier single unaliased notEnclosed
    constructor
    · intro space first
      rcases lookupUnder_of_firstOpened first with ⟨found, imported, located⟩
      refine ⟨found, ?_, located⟩
      rw [order, imported, Option.some_or]
    · intro qualified site type declared
      rw [order]
      exact sought_eq_declared_iff declared
  · intro count bounded site type dotted unaliased declared
    rw [resolve, DottedName.ofText?_of_isDotted dotted, Option.bind_some]
    exact resolveName_of_innermost catalog unaliased (dot_mem_nestedName bounded name) declared

end Model

namespace Sample

/-- A unit with a class of its own, a class inside another one, and an opened namespace. -/
def shadowRoot (space : String) : Tree :=
  phrase .compilationUnit none
    [opening space, classOf "Counter" [], classOf "Owner" [classOf "Timer" []]]

/-- A class as a unit declares it. -/
def ownClass (name : String) : CatalogType :=
  { space := "", name, isSealed := false, constructible := true }

/-- A library with a type of the global namespace and one of another. -/
def library : Catalog :=
  Catalog.ofList [{ space := "", name := "Counter" }, { space := "Sample", name := "Counter" }]

end Sample

/-- The unit's own class is found as long as no opened namespace has one of its name, and a class
inside another one by its whole name only. -/
theorem Model.declared_type_bound_iff_shadowRoot :
    (Model.ofTree library (shadowRoot "Other")).resolve "Counter" [shadowRoot "Other"] =
        some ⟨ownClass "Counter", true⟩ ∧
      (Model.ofTree library (shadowRoot "Sample")).resolve "Counter" [shadowRoot "Sample"] ≠
        some ⟨ownClass "Counter", true⟩ ∧
      ∃ site ∈ (shadowRoot "Other").sites, enclosingTypes site.ancestors = ["Owner"] ∧
        (Model.ofTree library (shadowRoot "Other")).resolve "Owner.Timer" site.ancestors =
          some ⟨ownClass "Owner.Timer", true⟩ ∧
        (Model.ofTree library (shadowRoot "Other")).resolve "Timer" site.ancestors ≠
          some ⟨ownClass "Owner.Timer", true⟩ := by
  have declares : ∀ space ∈ ["Other", "Sample"], ∀ name ∈ ["Counter", "Owner.Timer"],
      (Declarations.ofTree (shadowRoot space)).types.get? name = some (ownClass name) := by
    decide +kernel
  have opened : (Model.ofTree library (shadowRoot "Other")).declarations.usings = ["Other"] := by
    decide +kernel
  have atTop := fun space =>
    declared_type_bound_iff library (shadowRoot space) [shadowRoot space]
      (show DottedName.isIdentifier "Counter".toList = true by decide)
  refine ⟨?_, ?_, ?_⟩
  · rcases Tree.get?_types_ofTree.1 (declares "Other" (by decide) "Counter" (by decide)) with
      ⟨site, declared⟩
    apply (((atTop "Other").1 (by decide +kernel) (by decide +kernel)).2 _ _ _ declared).2
    exact Or.inl ⟨rfl, by decide +kernel⟩
  · rcases Tree.get?_types_ofTree.1 (declares "Sample" (by decide) "Counter" (by decide)) with
      ⟨site, declared⟩
    intro own
    have sought := ((atTop "Sample").1 (by decide +kernel) (by decide +kernel)).2 _ _ _ declared
    rcases sought.1 own with ⟨-, lacking⟩ | ⟨space, isUnder, -⟩
    · exact absurd lacking (by decide +kernel)
    · have dot : '.' ∈ "Counter".toList := by
        rw [isUnder, DottedName.under]
        simp
      exact absurd dot (by decide)
  · let site := (shadowRoot "Other").sites.get ⟨8, by decide +kernel⟩
    rcases Tree.get?_types_ofTree.1 (declares "Other" (by decide) "Owner.Timer" (by decide)) with
      ⟨place, declared⟩
    have around : enclosingTypes site.ancestors = ["Owner"] := by decide +kernel
    have nested : nestedName site.ancestors 0 "Timer" = "Owner.Timer" := by decide +kernel
    have qualified : qualify ((Model.ofTree library (shadowRoot "Other")).declarations.namespaceAt
        site.ancestors) "Owner.Timer" = "Owner.Timer" := by decide +kernel
    rcases declared_type_bound_iff library (shadowRoot "Other") site.ancestors
      (show DottedName.isIdentifier "Timer".toList = true by decide) with ⟨sought, byPath⟩
    refine ⟨site, List.get_mem _ _, around, ?_, ?_⟩
    · have found := byPath 0 (by rw [around]; decide) place (ownClass "Owner.Timer")
      rw [nested, qualified] at found
      exact found (by decide) (by decide +kernel) declared
    · intro own
      have bound := (sought (by decide +kernel) (by decide +kernel)).2 _ _ _ declared
      rcases bound.1 own with ⟨same, -⟩ | ⟨space, isUnder, first⟩
      · exact absurd same (by decide)
      · have listed := first.mem
        rw [opened, List.mem_singleton] at listed
        rw [listed] at isUnder
        exact absurd isUnder (by decide)

/-- A type of an opened namespace comes before the unit's own type of the global namespace, and a
type declared inside another one is not found by its own name. -/
theorem Model.declared_type_passed_over :
    (Declarations.ofTree (shadowRoot "Sample")).types.get? "Counter" =
        some (ownClass "Counter") ∧
      (Declarations.ofTree (shadowRoot "Sample")).types.get? "Owner.Timer" =
        some (ownClass "Owner.Timer") ∧
      (Declarations.ofTree (shadowRoot "Sample")).aliases = .empty ∧
      (Declarations.ofTree (shadowRoot "Sample")).namespacesAt [shadowRoot "Sample"] = [] ∧
      ((Model.ofTree library (shadowRoot "Sample")).resolve "Counter" [shadowRoot "Sample"]).map
          (fun found => (found.type.qualifiedName, found.isDeclared)) =
        some ("Sample.Counter", false) ∧
      ∃ site ∈ (shadowRoot "Sample").sites, enclosingTypes site.ancestors = ["Owner"] ∧
        (Declarations.ofTree (shadowRoot "Sample")).namespacesAt site.ancestors = [] ∧
        ((Model.ofTree library (shadowRoot "Sample")).resolve "Timer" site.ancestors).isNone =
          true := by
  let site := (shadowRoot "Sample").sites.get ⟨8, by decide +kernel⟩
  refine ⟨by decide +kernel, by decide +kernel, by decide +kernel, by decide +kernel,
    by decide +kernel, site, List.get_mem _ _, ?_⟩
  decide +kernel

end WinrtLint.Source
