import WinrtLint.Analysis.Host
import WinrtLint.NameSet

/-!
# Syntax families

The matching rules know four categories of nodes.  A syntax family says which
kinds of nodes belong to them and where a node holds the part on which it is
judged.
-/

namespace WinrtLint

/-- A source syntax. -/
inductive Family where
  | csharp
  | visualBasic
  deriving DecidableEq, Repr

/-- The name of a source syntax. -/
def Family.name : Family → String
  | .csharp => "csharp"
  | .visualBasic => "visual_basic"

/-- The source syntax of a name. -/
def Family.ofName? (name : String) : Option Family :=
  [Family.csharp, .visualBasic].find? fun family => family.name = name

/-- The categories of nodes that are judged. -/
inductive Category where
  | invocation
  | objectCreation
  | variableDeclaration
  | cast
  deriving DecidableEq, Repr

/-- The name of a category. -/
def Category.name : Category → String
  | .invocation => "invocation"
  | .objectCreation => "object_creation"
  | .variableDeclaration => "variable_declaration"
  | .cast => "cast"

namespace Family

/-- The kinds of nodes that a family delivers, with their categories. -/
def kinds : Family → List (String × Category)
  | .csharp =>
      [("InvocationExpression", .invocation),
        ("ObjectCreationExpression", .objectCreation),
        ("VariableDeclaration", .variableDeclaration),
        ("CastExpression", .cast)]
  | .visualBasic =>
      [("InvocationExpression", .invocation),
        ("ObjectCreationExpression", .objectCreation),
        ("VariableDeclarator", .variableDeclaration),
        ("DirectCastExpression", .cast),
        ("TryCastExpression", .cast)]

/-- The category of a kind of node. -/
def category? (family : Family) (kind : String) : Option Category :=
  family.kinds.lookup kind

/-- The kinds of nodes that a family delivers. -/
def interests (family : Family) : NameSet :=
  NameSet.ofList (family.kinds.map (·.1))

variable {Node : Type}

/-- The expression that an invocation invokes. -/
def invocationTarget (_ : Family) (host : Host Node) (node : Node) :
    Option Node :=
  host.child node .expression

/--
The type that a creation, declaration or cast names.  A declaration in Visual
Basic holds it in its `As` clause, which may be missing.
-/
def typeClause
    (family : Family)
    (host : Host Node)
    (node : Node)
    (category : Category) :
    Option Node :=
  match family, category with
  | .visualBasic, .variableDeclaration =>
      match host.child node .asClause with
      | none => none
      | some clause => host.child clause .type
  | _, _ => host.child node .type

end Family

end WinrtLint
