import WinrtLint.Catalog.Basic
import WinrtLint.Source.DottedName
import WinrtLint.Source.Tree

/-!
# What a unit declares

Before names can be bound, a walk over the unit gathers its using directives,
its file-scoped namespace and the types that it declares itself.
-/

namespace WinrtLint.Source

/-- What a unit declares for its own names. -/
structure Declarations where
  /-- Namespaces opened by using directives. -/
  usings : List String := []
  /-- Types whose static members using directives open. -/
  staticUsings : List String := []
  /-- Short names given by using directives. -/
  aliases : Dictionary String String := .empty
  /-- The namespace declared for the whole file. -/
  fileNamespace : Option String := none
  /-- The declared types by qualified name. -/
  types : Dictionary String CatalogType := .empty

namespace Tree

/-- The texts of the modifiers of a declaration, without blanks around them. -/
def modifiers (tree : Tree) : List String :=
  (tree.children.filter (·.kind.isModifier)).map fun child => Text.trimString child.text

/-- The namespace that a node opens. -/
def namespaceName? (tree : Tree) : Option String :=
  (tree.childIn? .name).bind fun name => DottedName.ofText? name.text

/-- Whether a type declaration declares a value type. -/
def declaresValueType (tree : Tree) : Bool :=
  match tree.kind with
  | .typeDeclaration .structForm => true
  | .typeDeclaration .enumForm => true
  | .typeDeclaration .recordStructForm => true
  | .typeDeclaration .recordForm => tree.hasChildOf .structWord
  | _ => false

/-- The names of the static methods in the body of a type declaration. -/
def staticMethodNames (tree : Tree) : List String :=
  match tree.childIn? .body with
  | none => []
  | some body =>
      body.namedChildren.filterMap fun member =>
        if member.kind = .memberDeclaration .method && member.modifiers.contains "static"
        then (member.childIn? .name).map text
        else none

end Tree

/-- The names of the types declared around a site, outermost first. -/
def enclosingTypes (ancestors : List Tree) : List String :=
  (ancestors.filterMap fun ancestor =>
    if ancestor.kind.declaresType then (ancestor.childIn? .name).map Tree.text
    else none).reverse

/--
The full names of the namespaces around a site, innermost first.  A namespace
whose name has several segments opens each of its leading parts as well, and a
file-scoped namespace holds the whole file.
-/
def enclosingNamespaces
    (fileNamespace : Option String)
    (ancestors : List Tree) :
    List String :=
  let openers := ancestors.filter (·.kind.opensNamespace)
  let inner := (openers.filterMap Tree.namespaceName?).reverse
  let insideFileScoped := openers.any fun opener => opener.kind = .fileScopedNamespace
  let names := if insideFileScoped then inner else fileNamespace.toList ++ inner
  let segments := names.flatMap DottedName.segments
  (List.range segments.length).reverse.map fun last =>
    Text.joinStrings "." (segments.take (last + 1))

namespace Declarations

/-- The namespaces around a site, innermost first. -/
def namespacesAt (declarations : Declarations) (ancestors : List Tree) :
    List String :=
  enclosingNamespaces declarations.fileNamespace ancestors

/-- The innermost namespace around a site, empty at the top. -/
def namespaceAt (declarations : Declarations) (ancestors : List Tree) :
    String :=
  ((declarations.namespacesAt ancestors).head?).getD ""

/-- The short name that a using directive gives; possibly empty. -/
def aliasOf? (directive : Tree) (parts : List Tree) : Option String :=
  match directive.childOf? .nameEquals with
  | some clause => (clause.namedChildOf? .identifier).map Tree.text
  | none =>
      if directive.hasChildOf .equalsSign then
        ((directive.childIn? .name).or parts.head?).map Tree.text
      else none

/-- Take in a using directive. -/
def readUsing (declarations : Declarations) (directive : Tree) : Declarations :=
  let parts := directive.namedChildren.filter fun child =>
    child.kind ≠ .comment && child.kind ≠ .nameEquals
  match parts.getLast?.bind fun part => DottedName.ofText? part.text with
  | none => declarations
  | some target =>
      match (aliasOf? directive parts).filter (· ≠ "") with
      | some short =>
          { declarations with aliases := declarations.aliases.insert short target }
      | none =>
          if directive.hasChildOf .staticWord then
            { declarations with staticUsings := declarations.staticUsings ++ [target] }
          else { declarations with usings := declarations.usings ++ [target] }

/-- The type that a declaration with a name declares. -/
def declaredType
    (declarations : Declarations)
    (declaration name : Tree)
    (ancestors : List Tree) :
    CatalogType :=
  let modifiers := declaration.modifiers
  let isInterface := declaration.kind = .typeDeclaration .interfaceForm
  { space := declarations.namespaceAt ancestors
    name := Text.joinStrings "." (enclosingTypes ancestors ++ [name.text])
    isSealed := !isInterface && (declaration.declaresValueType ||
      modifiers.contains "sealed" || modifiers.contains "static")
    isValueType := declaration.declaresValueType
    staticMethods := NameSet.ofList declaration.staticMethodNames
    constructible := !isInterface }

/-- Take in a type declaration; one without a name declares nothing. -/
def readType
    (declarations : Declarations)
    (declaration : Tree)
    (ancestors : List Tree) :
    Declarations :=
  match declaration.childIn? .name with
  | none => declarations
  | some name =>
      let type := declarations.declaredType declaration name ancestors
      { declarations with types := declarations.types.insert type.qualifiedName type }

/-- Take in one node of the unit. -/
def read (declarations : Declarations) (site : Site) : Declarations :=
  match site.node.kind with
  | .usingDirective => declarations.readUsing site.node
  | .fileScopedNamespace =>
      match site.node.childIn? .name with
      | none => declarations
      | some name => { declarations with fileNamespace := DottedName.ofText? name.text }
  | .typeDeclaration _ => declarations.readType site.node site.ancestors
  | _ => declarations

/-- What a unit declares, gathered in pre-order. -/
def ofTree (root : Tree) : Declarations :=
  root.sites.foldl read {}

/-- The declared types in the order of their qualified names. -/
def sortedTypes (declarations : Declarations) : List CatalogType :=
  declarations.types.values.mergeSort fun left right => left.qualifiedName ≤ right.qualifiedName

end Declarations

end WinrtLint.Source
