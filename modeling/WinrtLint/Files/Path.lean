import WinrtLint.Text.Blank

/-!
# Paths

A path is a root, which only absolute paths have, and a list of parts.  Empty
parts and parts of a single dot do not count; two dots stay.  Exactly two
slashes in front are a root of their own, more of them are one.
-/

namespace WinrtLint.Files

/-- A path of a file or folder. -/
structure Path where
  /-- The slashes in front; empty for a relative path. -/
  root : String
  parts : List String
  deriving DecidableEq, Repr

namespace Path

/-- The root that a text begins with. -/
def rootOf : List Char → String
  | '/' :: '/' :: '/' :: _ => "/"
  | '/' :: '/' :: _ => "//"
  | '/' :: _ => "/"
  | _ => ""

/-- The path that a text spells. -/
def ofString (text : String) : Path where
  root := rootOf text.toList
  parts := ((Text.pieces '/' text.toList).map String.ofList).filter fun part =>
    part ≠ "" && part ≠ "."

/-- The text of a path; a path without parts and root is a dot. -/
def text (path : Path) : String :=
  if path.root = "" && path.parts.isEmpty then "."
  else path.root ++ Text.joinStrings "/" path.parts

/-- Whether a path begins at the root. -/
def isAbsolute (path : Path) : Bool :=
  path.root ≠ ""

/-- A path below another one; an absolute path stays what it is. -/
def join (left right : Path) : Path :=
  if right.isAbsolute then right else { left with parts := left.parts ++ right.parts }

/-- The path that a text spells below another one. -/
def child (path : Path) (text : String) : Path :=
  path.join (ofString text)

/-- A path below another one, by its parts. -/
def below (path : Path) (parts : List String) : Path :=
  { path with parts := path.parts ++ parts }

/-- The last part, empty if there is none. -/
def name (path : Path) : String :=
  path.parts.getLast?.getD ""

/--
The suffix of a file's name: its last dot and what follows.  A dot at the very
beginning or end of the name makes no suffix.
-/
def suffix (path : Path) : String :=
  match Text.cutLast? '.' path.name.toList with
  | some (_ :: _, last@(_ :: _)) => String.ofList ('.' :: last)
  | _ => ""

/-- The pieces between slashes by which paths are ordered. -/
def components (path : Path) : List String :=
  (Text.pieces '/' path.text.toList).map String.ofList

/-- Whether a path stands no later than another one. -/
def notLater (left right : Path) : Bool :=
  !right.components.lex left.components

end Path

end WinrtLint.Files
