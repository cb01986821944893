import WinrtLint.Terminal.Emoji.Code
import WinrtLint.Terminal.StyleName
import WinrtLint.Text.Literal
import WinrtLint.Text.WordChar

/-!
# Markup

Messages carry style tags in square brackets.  A backslash in front of a tag
makes it plain text, and backslashes in front of that one stand in pairs.
Text that comes from outside is escaped before it becomes part of a message.
This module says what is left of a message when styles are not shown.  Between
two tags the codes of emoji are replaced.

A tag opens a style, or closes one that is open: the last one of a name, or
the last one at all if it has no name.  A message is at fault where a tag
closes nothing.
-/

namespace WinrtLint.Terminal.Markup

/-- A character that may come first in a tag. -/
def opensTag (char : Char) : Bool :=
  ('a' ≤ char && char ≤ 'z') || char = '#' || char = '/' || char = '@'

/-- Whether a text begins with a tag: no bracket opens before its bracket closes. -/
def beginsWithTag : List Char → Bool
  | '[' :: first :: rest =>
      opensTag first &&
        (rest.dropWhile fun char => char ≠ '[' && char ≠ ']').head? = some ']'
  | _ => false

/-- Some backslashes. -/
def backslashes (count : Nat) : List Char :=
  List.replicate count '\\'

/--
Escape the tags of a text in front of which some backslashes stand.  Within a
tag nothing needs escaping, because no bracket opens there.
-/
def escapeFrom (count : Nat) : List Char → List Char
  | [] => backslashes count
  | char :: rest =>
      if char = '\\' then escapeFrom (count + 1) rest
      else
        let doubled := if beginsWithTag (char :: rest) then 2 * count + 1 else count
        backslashes doubled ++ char :: escapeFrom 0 rest

/-- Double a single backslash at the end, so that it cannot escape a tag that follows. -/
def guardEnd (text : List Char) : List Char :=
  match text.reverse with
  | '\\' :: '\\' :: _ => text
  | '\\' :: _ => text ++ ['\\']
  | _ => text

/-- Escape a text that becomes part of a message. -/
def escape (text : String) : String :=
  String.ofList (guardEnd (escapeFrom 0 text.toList))

/-- A part of a message. -/
inductive Segment where
  /-- Plain text. -/
  | text (chars : List Char)
  /-- A tag, by what stands between its brackets. -/
  | tag (chars : List Char)
  deriving DecidableEq, Repr

/-- Where a message is being read. -/
inductive Place where
  /-- Between tags. -/
  | text
  /-- Within a tag that is plain text. -/
  | plainTag
  /-- Within a tag that is not shown. -/
  | tag
  deriving DecidableEq, Repr

/--
The segments of a message.  The segment being read has the characters
`current`, last first, and behind them some backslashes.  A bracket that opens
no tag takes away one backslash.
-/
def segmentsFrom (place : Place) (count : Nat) (current : List Char) :
    List Char → List Segment
  | [] => [.text (current.reverse ++ backslashes count)]
  | char :: rest =>
      match place with
      | .tag =>
          if char = ']' then .tag current.reverse :: segmentsFrom .text 0 [] rest
          else segmentsFrom .tag 0 (char :: current) rest
      | .plainTag =>
          if char = ']' then .text (char :: current).reverse :: segmentsFrom .text 0 [] rest
          else segmentsFrom .plainTag 0 (char :: current) rest
      | .text =>
          if char = '\\' then segmentsFrom .text (count + 1) current rest
          else if beginsWithTag (char :: rest) then
            .text current.reverse :: .text (backslashes (count / 2)) ::
              if count % 2 = 1 then segmentsFrom .plainTag 0 [char] rest
              else segmentsFrom .tag 0 [] rest
          else
            let kept := if char = '[' then count - 1 else count
            segmentsFrom .text 0 (char :: (backslashes kept ++ current)) rest

/-- The segments of a message. -/
def segments (message : String) : List Segment :=
  segmentsFrom .text 0 [] message.toList

/-- Control characters that are not shown: bell, backspace and three feeds. -/
def isHidden (char : Char) : Bool :=
  char = '\x07' || char = '\x08' || char = '\x0b' || char = '\x0c' || char = '\r'

/-- What a segment shows where styles are not shown. -/
def Segment.shown : Segment → List Char
  | .text chars => Emoji.replace chars
  | .tag _ => []

/-- What a message shows where styles are not shown. -/
def plain (message : String) : String :=
  String.ofList (((segments message).flatMap Segment.shown).filter fun char => !isHidden char)

/-- What is wrong with the tags of a message. -/
inductive Fault where
  /-- A tag closes nothing. -/
  | nothingToClose
  /-- The arguments of an action are no literals. -/
  | notLiteral
  /-- A color in a tag has a share that is no number. -/
  | color (fault : Color.Fault)
  deriving DecidableEq, Repr

/-- A tag that opens a style. -/
structure Opening where
  /-- The normal form of the style's name. -/
  name : String
  /-- What stands behind an equals sign. -/
  parameters : Option (List Char)
  deriving DecidableEq, Repr

/-- A color's fault as one of a message. -/
def ofColor {α : Type} (result : Except Color.Fault α) : Except Fault α :=
  result.mapError .color

/--
The arguments of an action: behind its name they stand in round brackets, or
there are none.  What is not of this form is all arguments.
-/
def argumentsOf (parameters : List Char) : List Char :=
  let text := Text.trim parameters
  match text.dropWhile fun char => Text.isWordChar char || char = '.' with
  | [] => "()".toList
  | '(' :: rest =>
      if rest.getLast? = some ')' && !rest.contains '\n' then '(' :: rest else text
  | _ => text

/-- Whether the arguments of an action are literals. -/
def hasLiteralArguments (parameters : List Char) : Bool :=
  let lines := (argumentsOf parameters).map fun char => if char = '\r' then '\n' else char
  parameters.isEmpty || Text.Literal.isLiteral lines

/-- Close an open style; the arguments of its action are looked at now. -/
def Opening.close (opening : Opening) : Except Fault Unit :=
  if opening.name.startsWith "@" && !(opening.parameters.all hasLiteralArguments) then
    .error .notLiteral
  else .ok ()

/-- Look at the style of an opening with its parameters as words of its name. -/
def Opening.applyStyle (opening : Opening) : Except Fault Unit :=
  match opening.parameters with
  | none => .ok ()
  | some parameters => do
      let _ ← ofColor (StyleName.read (opening.name.toList ++ ' ' :: parameters))
      return ()

/-- The tags of a message that have been read. -/
structure Progress where
  /-- The tags whose styles are open, latest first. -/
  opened : List Opening := []
  /-- All tags that have opened a style, latest first. -/
  all : List Opening := []
  deriving DecidableEq, Repr

/-- Read one more tag. -/
def Progress.read (progress : Progress) (tag : List Char) :
    Except Fault Progress := do
  let (name, parameters) := Text.cutFirst '=' tag
  match name with
  | '/' :: closed =>
      let isClosed ←
        match Text.trim closed with
        | [] => pure fun (_ : Opening) => true
        | closed => do
            let closed ← ofColor (StyleName.normalize closed)
            pure fun (opening : Opening) => opening.name = closed
      match progress.opened.find? isClosed with
      | none => throw .nothingToClose
      | some opening =>
          opening.close
          return { progress with opened := progress.opened.eraseP isClosed }
  | name =>
      let opening := { name := ← ofColor (StyleName.normalize name), parameters }
      return { opened := opening :: progress.opened, all := opening :: progress.all }

/-- The tags of a message. -/
def tagsOf (message : String) : List (List Char) :=
  (segments message).filterMap fun
    | .tag chars => some chars
    | .text _ => none

/-- The tags of a message that open a style, provided that those that close one match. -/
def openings (message : String) : Except Fault (List Opening) := do
  let progress ← (tagsOf message).foldlM Progress.read {}
  return progress.all.reverse

end WinrtLint.Terminal.Markup
