/-!
# Locations and symbols

What a host says about a piece of source: where it stands, and which declared
type or method it refers to.
-/

namespace WinrtLint

/-- The full name of a type: its own name behind its namespace, if it has one. -/
def qualify (space name : String) : String :=
  if space = "" then name else space ++ "." ++ name

/-- A span of a source document; lines and columns count from zero. -/
structure Location where
  path : String
  startLine : Int
  startColumn : Int := 0
  endLine : Option Int := none
  endColumn : Option Int := none
  /-- False for what has no literal source text. -/
  inSource : Bool := true
  deriving DecidableEq, Repr

/-- Path, line and column, the latter two counted from one. -/
def Location.text (location : Location) : String :=
  location.path ++ ":" ++ toString (location.startLine + 1) ++ ":" ++
    toString (location.startColumn + 1)

/-- A declared type. -/
structure TypeSymbol where
  /-- The namespace, empty at the top. -/
  space : String
  name : String
  isSealed : Bool := true
  isValueType : Bool := false
  isType : Bool := true
  isStatic : Bool := false
  deriving DecidableEq, Repr

/-- The name under which a type is shown. -/
def TypeSymbol.display (symbol : TypeSymbol) : String :=
  qualify symbol.space symbol.name

/-- A declared method. -/
structure MethodSymbol where
  name : String
  containingType : Option TypeSymbol
  isStatic : Bool
  deriving DecidableEq, Repr

/-- The name under which a method is shown. -/
def MethodSymbol.display (symbol : MethodSymbol) : String :=
  match symbol.containingType with
  | none => symbol.name
  | some owner => owner.display ++ "." ++ symbol.name

/-- What a node can refer to. -/
inductive Symbol where
  | type (symbol : TypeSymbol)
  | method (symbol : MethodSymbol)
  deriving DecidableEq, Repr

/-- The name under which a symbol is shown. -/
def Symbol.display : Symbol → String
  | .type symbol => symbol.display
  | .method symbol => symbol.display

end WinrtLint
