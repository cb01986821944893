import WinrtLint.Analysis.Host
import WinrtLint.NameSet
import WinrtLint.Source.DottedName
import WinrtLint.Source.Tree

/-!
# Names of values

Parameters, locals, fields and their like hide types of the same name.  At a
site, a name may stand for a value declared anywhere in the enclosing member
(or, for a top-level statement, in any top-level statement of the unit), or
for a field, property, event or primary parameter of an enclosing type.
-/

namespace WinrtLint.Source

namespace Tree

/-- The name that a node introduces if it is an identifier or designates one. -/
def identifierName? (tree : Tree) : Option String :=
  match tree.kind with
  | .identifier => some (DottedName.withoutVerbatim tree.text)
  | .singleDesignation =>
      (tree.namedChildOf? .identifier).map fun name =>
        DottedName.withoutVerbatim name.text
  | _ => none

/-- The node that a loop over a collection declares its variable with. -/
def loopVariable? (tree : Tree) : Option Tree :=
  match tree.childIn? .left with
  | some left => some left
  | none =>
      let before := tree.children.takeWhile fun child => child.kind ≠ .inWord
      before.reverse.find? fun child => child.kind = .identifier

/-- The node that holds the name of a declarator. -/
def declaratorName? (tree : Tree) : Option Tree :=
  match tree.childIn? .name with
  | some name => some name
  | none => tree.childOf? .identifier

/-- The name of the value that a node declares; possibly empty. -/
def valueName? (tree : Tree) : Option String :=
  match tree.kind with
  | .parameter => (tree.childIn? .name).bind identifierName?
  | .catchDeclaration => (tree.childIn? .name).bind identifierName?
  | .declarationExpression => (tree.childIn? .name).bind identifierName?
  | .variableDeclarator => tree.declaratorName?.bind identifierName?
  | .foreachStatement => tree.loopVariable?.bind identifierName?
  | .declarationPattern =>
      ((tree.childIn? .name).or (tree.childIn? .designation)).bind identifierName?
  | .lambda => (tree.childIn? .parameters).bind identifierName?
  | .singleDesignation => tree.identifierName?
  | .implicitParameter => some (DottedName.withoutVerbatim tree.text)
  | _ => none

/-- The names of the values that some nodes declare themselves. -/
def valueNames (trees : List Tree) : List String :=
  (trees.filterMap valueName?).filter (· ≠ "")

/-- The names of the values that a member of a type's body declares for the type. -/
def memberValueNames (member : Tree) : List String :=
  let declared :=
    member.namedChildren.flatMap fun declaration =>
      if declaration.kind = .variableDeclaration then valueNames declaration.namedChildren
      else []
  let named :=
    ((member.childIn? .name).bind identifierName?).toList.filter (· ≠ "")
  match member.kind with
  | .fieldDeclaration => declared
  | .eventFieldDeclaration => declared
  | .memberDeclaration .property => named
  | .memberDeclaration .event => named
  | _ => []

/-- The names of the values that a type declaration declares for its members. -/
def typeValueNames (declaration : Tree) : List String :=
  let primary :=
    declaration.children.flatMap fun child =>
      if child.kind = .parameterList then valueNames child.namedChildren else []
  let fields :=
    match declaration.childIn? .body with
    | none => []
    | some body => body.namedChildren.flatMap memberValueNames
  primary ++ fields

/-- The names of the values declared anywhere in a scope. -/
def localNames (scope : Tree) : NameSet :=
  let statements :=
    if scope.kind = .compilationUnit then
      scope.children.filter fun child => child.kind = .globalStatement
    else [scope]
  NameSet.ofList (valueNames (statements.flatMap preorder))

end Tree

/-- A node whose declarations are visible to one another, and where it stands. -/
structure Scope where
  node : Tree
  address : List Nat

/--
The scope of the locals around a site: the innermost member declaration or
top-level statement above it, where a top-level statement shares the scope of
the node that holds it.
-/
def localScope? : List Nat → List Tree → Except HostFailure (Option Scope)
  | _ :: address, ancestor :: above =>
      if ancestor.kind.isMemberScope then .ok (some ⟨ancestor, address⟩)
      else if ancestor.kind = .globalStatement then
        match above with
        | [] => .error .statementOutsideUnit
        | holder :: _ => .ok (some ⟨holder, address.tail⟩)
      else localScope? address above
  | _, _ => .ok none

namespace Site

/-- The scope of the locals around a site. -/
def localScope? (site : Site) : Except HostFailure (Option Scope) :=
  Source.localScope? site.address site.ancestors

/-- The names of the values that the enclosing types declare. -/
def memberNames (site : Site) : NameSet :=
  NameSet.ofList <|
    (site.ancestors.filter (·.kind.declaresType)).flatMap Tree.typeValueNames

/-- The names of all values for which a simple name could stand at a site. -/
def valueNames (site : Site) : Except HostFailure NameSet := do
  match ← site.localScope? with
  | none => return site.memberNames
  | some scope => return site.memberNames.union scope.node.localNames

end Site

end WinrtLint.Source
