import WinrtLint.Text.Blank

/-!
# Dotted names

A plain name in source code is a list of identifiers with dots between them.
Blanks and verbatim marks `@` inside it do not count, nor does the word
`global` with two colons in front of it.  Anything else, such as a generic or
an array type, is no plain name.
-/

namespace WinrtLint.Source.DottedName

/-- Whether a character can begin an identifier. -/
def isStart (char : Char) : Bool :=
  ('A' ≤ char && char ≤ 'Z') || ('a' ≤ char && char ≤ 'z') || char = '_'

/-- Whether a character can continue an identifier. -/
def isContinuation (char : Char) : Bool :=
  isStart char || ('0' ≤ char && char ≤ '9')

/-- Whether a text is an identifier. -/
def isIdentifier : List Char → Bool
  | [] => false
  | first :: rest => isStart first && rest.all isContinuation

/-- Whether a text consists of identifiers with dots between them. -/
def isDotted (text : List Char) : Bool :=
  (Text.pieces '.' text).all isIdentifier

/-- The mark in front of a name that is meant from the top. -/
def globalMark : List Char :=
  ['g', 'l', 'o', 'b', 'a', 'l', ':', ':']

/-- The characters of a text that count: no blanks and no verbatim marks. -/
def significant (text : List Char) : List Char :=
  text.filter fun char => !Text.isBlank char && char != '@'

/-- A text without the mark in front of it, if it has one. -/
def withoutGlobalMark (text : List Char) : List Char :=
  (Text.afterStart? globalMark text).getD text

/-- The plain name that a text spells. -/
def ofText? (text : String) : Option String :=
  let name := withoutGlobalMark (significant text.toList)
  if isDotted name then some (String.ofList name) else none

/-- The first identifier of a name and, behind a dot, the rest. -/
def split (name : String) : String × Option String :=
  let (head, rest) := Text.cutFirst '.' name.toList
  (String.ofList head, rest.map String.ofList)

/-- The first identifier of a name. -/
def head (name : String) : String :=
  (split name).1

/-- The identifiers of a name. -/
def segments (name : String) : List String :=
  (Text.pieces '.' name.toList).map String.ofList

/-- A name under a namespace. -/
def under (space name : String) : String :=
  space ++ "." ++ name

/-- A text without the verbatim marks in front of it. -/
def withoutVerbatim (text : String) : String :=
  String.ofList (text.toList.dropWhile (· = '@'))

/-- Whether a text begins, after blanks, with the mark of a name meant from the top. -/
def beginsGlobal (text : String) : Bool :=
  (Text.afterStart? globalMark (text.toList.dropWhile Text.isBlank)).isSome

end WinrtLint.Source.DottedName
