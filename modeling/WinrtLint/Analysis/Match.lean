import WinrtLint.Analysis.Family
import WinrtLint.Denylist.Registry

/-!
# Matching a node against the registry

There are two strategies.  The member strategy looks up the key of a static
method that is invoked, or of the constructor that is called.  The type
reference strategy looks up the sealed class that a creation, declaration or
cast names.
-/

namespace WinrtLint

/-- A way to match a node. -/
inductive Strategy where
  | member
  | typeReference
  deriving DecidableEq, Repr

namespace Strategy

/-- Both strategies, in the order in which they are tried. -/
def all : List Strategy :=
  [.member, .typeReference]

/-- The name of a strategy. -/
def name : Strategy → String
  | .member => "member"
  | .typeReference => "type_reference"

/-- The strategy of a name. -/
def ofName? (name : String) : Option Strategy :=
  all.find? fun strategy => strategy.name = name

variable {Node : Type}

/-- The owner and the key of the member that a symbol makes an invocation reach. -/
def invokedMember? : Symbol → Option (String × String)
  | .type _ => none
  | .method method =>
      match method.isStatic, method.containingType with
      | true, some owner => some (owner.display, memberKey owner.display method.name)
      | _, _ => none

/-- The type that a symbol names, if it is a sealed class. -/
def sealedClass? : Symbol → Option String
  | .method _ => none
  | .type type =>
      if type.isType && !type.isValueType && type.isSealed then some type.display
      else none

/-- The name of the forbidden type that the member strategy finds at a node. -/
def matchMember
    (registry : Registry)
    (family : Family)
    (host : Host Node)
    (node : Node) :
    Category → Except HostFailure (Option String)
  | .invocation => do
      let symbol ← host.resolve (family.invocationTarget host node)
      match symbol.bind invokedMember? with
      | none => return none
      | some (owner, key) => return if registry.contains key then some owner else none
  | .objectCreation => do
      let symbol ← host.resolve (family.typeClause host node .objectCreation)
      match symbol with
      | none => return none
      | some symbol =>
          return if registry.contains (memberKey symbol.display constructorName)
            then some symbol.display else none
  | _ => .ok none

/-- The name of the forbidden type that the type reference strategy finds at a node. -/
def matchTypeReference
    (registry : Registry)
    (family : Family)
    (host : Host Node)
    (node : Node) :
    Category → Except HostFailure (Option String)
  | .invocation => .ok none
  | category => do
      let symbol ← host.resolve (family.typeClause host node category)
      match symbol.bind sealedClass? with
      | none => return none
      | some name => return if registry.containsType name then some name else none

/-- What a strategy finds at a node of a category. -/
def find
    (strategy : Strategy)
    (registry : Registry)
    (family : Family)
    (host : Host Node)
    (node : Node)
    (category : Category) :
    Except HostFailure (Option String) :=
  match strategy with
  | .member => matchMember registry family host node category
  | .typeReference => matchTypeReference registry family host node category

end Strategy

end WinrtLint
