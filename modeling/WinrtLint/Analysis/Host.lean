import WinrtLint.Symbol

/-!
# Hosts

Source is parsed and bound by a host.  The host hands over nodes that have a
kind, a location and sub-nodes by role, and answers which symbol a node refers
to.
-/

namespace WinrtLint

/-- The roles in which a node can hold a sub-node. -/
inductive Role where
  | expression
  | type
  | asClause
  deriving DecidableEq, Repr

/-- A breakdown inside a host. -/
inductive HostFailure where
  /-- The host gave up with a message of its own. -/
  | crash (message : String)
  /-- The names in scope of a top-level statement that stands in no unit were asked for. -/
  | statementOutsideUnit
  deriving DecidableEq, Repr

/-- The wording of a host's breakdown. -/
def HostFailure.message : HostFailure → String
  | .crash message => message
  | .statementOutsideUnit => "'NoneType' object has no attribute 'id'"

/-- What a host says about the symbol of a node. -/
inductive Answer where
  /-- The node refers to a symbol. -/
  | symbol (symbol : Symbol)
  /-- The node refers to nothing. -/
  | absent
  /-- The host cannot bind the node. -/
  | unresolved
  /-- The host broke down. -/
  | failed (failure : HostFailure)
  deriving DecidableEq, Repr

/-- The operations of a host on its nodes. -/
structure Host (Node : Type) where
  kind : Node → String
  location : Node → Location
  child : Node → Role → Option Node
  answer : Node → Answer

namespace Host

variable {Node : Type}

/-- The symbol of a node; a missing node and one that does not bind have none. -/
def resolve (host : Host Node) :
    Option Node → Except HostFailure (Option Symbol)
  | none => .ok none
  | some node =>
      match host.answer node with
      | .symbol symbol => .ok (some symbol)
      | .absent => .ok none
      | .unresolved => .ok none
      | .failed failure => .error failure

end Host

/-- A node that carries its own answer and its sub-nodes. -/
inductive HostNode where
  | node
      (kind : String)
      (location : Location)
      (answer : Answer)
      (expression type asClause : Option HostNode)

namespace HostNode

/-- The sub-node in a role. -/
def child : HostNode → Role → Option HostNode
  | .node _ _ _ expression _ _, .expression => expression
  | .node _ _ _ _ type _, .type => type
  | .node _ _ _ _ _ asClause, .asClause => asClause

/-- The kind of a node. -/
def kind : HostNode → String
  | .node kind _ _ _ _ _ => kind

/-- The location of a node. -/
def location : HostNode → Location
  | .node _ location _ _ _ _ => location

/-- The answer that a node carries. -/
def answer : HostNode → Answer
  | .node _ _ answer _ _ _ => answer

/-- The host whose nodes carry their answers. -/
def host : Host HostNode where
  kind := kind
  location := location
  child := child
  answer := answer

end HostNode

end WinrtLint
