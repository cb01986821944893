import WinrtLint.Source.Declarations
import WinrtLint.Source.Values

/-!
# Binding names to types and methods

A name binds in this order: an alias for its first identifier, a type in one
of the enclosing namespaces from the innermost outward, a type in one of the
namespaces opened by using directives (single identifiers only), and last the
name taken as fully qualified.  Types that the unit declares come before
library types of the same qualified name.
-/

namespace WinrtLint.Source

/-- A unit's declarations beside the library types that it can use. -/
structure Model where
  catalog : Catalog
  declarations : Declarations

/-- A type to which a name is bound. -/
structure Found where
  type : CatalogType
  /-- Whether the unit itself declares the type. -/
  isDeclared : Bool

/-- The simple name that an invocation or a member access names a method by. -/
def Tree.simpleName? (tree : Tree) : Option String :=
  match tree.kind with
  | .identifier => some (DottedName.withoutVerbatim tree.text)
  | .genericName =>
      (tree.namedChildOf? .identifier).map fun name =>
        DottedName.withoutVerbatim name.text
  | _ => none

namespace Site

/-- The type inside a nullable type. -/
def nullableInner? (site : Site) : Option Site :=
  (site.childIn? .type).or site.firstNamed?

theorem sizeOf_mem_children
    {site child : Site}
    (member : child ∈ site.children) :
    sizeOf child.node < sizeOf site.node := by
  obtain ⟨⟨tree, position⟩, listed, equality⟩ := List.mem_map.1 member
  have below : tree ∈ site.node.children := by
    have fact := List.mem_zipIdx' listed
    exact fact.2 ▸ List.getElem_mem _
  cases hNode : site.node with
  | node label children =>
      rw [hNode] at below
      have smaller := List.sizeOf_lt_of_mem (show tree ∈ children from below)
      have same : child.node = tree := by rw [← equality]
      rw [same]
      simp only [Tree.node.sizeOf_spec]
      omega

theorem sizeOf_nullableInner
    {site inner : Site}
    (found : site.nullableInner? = some inner) :
    sizeOf inner.node < sizeOf site.node := by
  apply sizeOf_mem_children
  unfold nullableInner? at found
  cases first : site.childIn? .type with
  | some child =>
      rw [first] at found
      cases found
      exact List.mem_of_find?_eq_some first
  | none =>
      rw [first] at found
      exact List.mem_of_find?_eq_some found

/-- The type below all nullable types that wrap it. -/
def withoutNullable? (site : Site) : Option Site :=
  if site.node.kind = .nullableType then
    match found : site.nullableInner? with
    | none => none
    | some inner =>
        have := sizeOf_nullableInner found
        inner.withoutNullable?
  else some site
termination_by sizeOf site.node

end Site

namespace Model

/-- The model of a unit. -/
def ofTree (catalog : Catalog) (root : Tree) : Model :=
  ⟨catalog, .ofTree root⟩

/-- The type of a qualified name; declared types come before library types. -/
def lookup (model : Model) (qualified : String) : Option Found :=
  match model.declarations.types.get? qualified with
  | some type => some ⟨type, true⟩
  | none => (model.catalog.get? qualified).map fun type => ⟨type, false⟩

/-- The first type of a name under one of the given namespaces. -/
def lookupUnder (model : Model) (name : String) (spaces : List String) :
    Option Found :=
  spaces.findSome? fun space => model.lookup (DottedName.under space name)

/-- The type to which a plain name binds below the given ancestors. -/
def resolveName (model : Model) (name : String) (ancestors : List Tree) :
    Option Found :=
  let (head, rest) := DottedName.split name
  match model.declarations.aliases.get? head with
  | some target =>
      match rest with
      | none => model.lookup target
      | some rest => model.lookup (DottedName.under target rest)
  | none =>
      let imported := if rest.isNone then model.declarations.usings else []
      (model.lookupUnder name (model.declarations.namespacesAt ancestors)).or <|
        (model.lookupUnder name imported).or (model.lookup name)

/-- The type to which a text binds below the given ancestors. -/
def resolve (model : Model) (text : String) (ancestors : List Tree) :
    Option Found :=
  (DottedName.ofText? text).bind fun name => model.resolveName name ancestors

/-- The symbol of a type clause. -/
def typeSymbol (model : Model) (site : Site) : Option TypeSymbol :=
  site.withoutNullable?.bind fun site =>
    match site.node.kind with
    | .identifier =>
        (model.resolve site.node.text site.ancestors).map (·.type.symbol)
    | .qualifiedName =>
        (model.resolve site.node.text site.ancestors).map (·.type.symbol)
    | .aliasQualifiedName =>
        (model.resolve site.node.text site.ancestors).map (·.type.symbol)
    | _ => none

/-- The static method of a type that a name stands for. -/
def staticMethod (type : CatalogType) (name : String) : MethodSymbol :=
  ⟨name, some type.symbol, true⟩

/-- The types around a site that the unit declares, innermost first. -/
def enclosingDeclared (model : Model) (ancestors : List Tree) :
    List CatalogType :=
  let space := model.declarations.namespaceAt ancestors
  let outer := enclosingTypes ancestors
  (List.range outer.length).reverse.filterMap fun last =>
    model.declarations.types.get?
      (qualify space (Text.joinStrings "." (outer.take (last + 1))))

/-- The method that an unqualified name stands for: of an enclosing type, or imported. -/
def simpleMethod (model : Model) (name : String) (ancestors : List Tree) :
    Option MethodSymbol :=
  let own :=
    (model.enclosingDeclared ancestors).find? fun type => type.staticMethods.contains name
  let imported :=
    (model.declarations.staticUsings.filterMap fun target =>
      (model.lookup target).map (·.type)).find? fun type => type.staticMethods.contains name
  (own.or imported).map fun type => staticMethod type name

/--
The first identifier of a receiver, which stands for a value if one of that
name is in scope.  A receiver that is no plain name, or is meant from the top,
cannot stand for a value.
-/
def valueCandidate? (receiver : String) : Option String :=
  if DottedName.beginsGlobal receiver then none
  else (DottedName.ofText? receiver).map DottedName.head

/--
The method that a member access stands for, once the receiver is known to be
no value.  The unit's own types have only the methods that it declares.
-/
def accessedMethod
    (model : Model)
    (receiver method : String)
    (ancestors : List Tree) :
    Option MethodSymbol :=
  match model.resolve receiver ancestors with
  | none => none
  | some found =>
      if found.isDeclared && !found.type.staticMethods.contains method then none
      else some (staticMethod found.type method)

/-- The symbol of the target of an invocation, given how to find the values in scope. -/
def invocationSymbolWith
    {Effect : Type → Type}
    [Monad Effect]
    (valuesAt : Site → Effect (Except HostFailure NameSet))
    (model : Model)
    (site : Site) :
    Effect (Except HostFailure (Option MethodSymbol)) :=
  if site.node.kind = .memberAccess then
    match site.node.childIn? .expression,
        (site.node.childIn? .name).bind Tree.simpleName? with
    | some receiver, some method =>
        match valueCandidate? receiver.text with
        | none => return .ok (model.accessedMethod receiver.text method site.ancestors)
        | some head => do
            match ← valuesAt site with
            | .error failure => return .error failure
            | .ok values =>
                if values.contains head then return .ok none
                else
                  return .ok (model.accessedMethod receiver.text method site.ancestors)
    | _, _ => return .ok none
  else
    return .ok <| site.node.simpleName?.bind fun method =>
      model.simpleMethod method site.ancestors

/-- The symbol of the target of an invocation. -/
def invocationSymbol (model : Model) (site : Site) :
    Except HostFailure (Option MethodSymbol) :=
  Id.run (invocationSymbolWith (fun site => pure site.valueNames) model site)

/-- The symbol of a site in a role: the target of an invocation, or else a type. -/
def symbolAt (model : Model) (role : Option Role) (site : Site) :
    Except HostFailure (Option Symbol) :=
  if role = some .expression then
    (model.invocationSymbol site).map fun found => found.map Symbol.method
  else .ok ((model.typeSymbol site).map Symbol.type)

end Model

end WinrtLint.Source
