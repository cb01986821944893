import WinrtLint.Files.Tree
import WinrtLint.NameSet

/-!
# Denylist files and class lists

A denylist file has one entry a line, in quotes or not and with commas behind
it or not.  A list of classes has one qualified type name a line.  Empty lines
and comments do not count.
-/

namespace WinrtLint.Denylist

/-- Whether a text begins with a mark. -/
def begins (mark : String) (text : List Char) : Bool :=
  (Text.afterStart? mark.toList text).isSome

/-- The entry on a line of a denylist file. -/
def entryOfLine? (line : List Char) : Option String :=
  let text := Text.trim line
  if text.isEmpty || begins "#" text || begins "//" text then none
  else
    let bare := Text.trim (Text.dropEndWhile (· = ',') text)
    some (String.ofList (Text.dropBothWhile (· = '"') bare))

/-- The entries of a denylist file's text. -/
def entriesOf (text : List Char) : List String :=
  (Text.lines text).filterMap entryOfLine?

/-- Read the entries of a denylist file. -/
def load (files : Files.Node) (path : Files.Path) :
    Except Files.TextError (List String) :=
  (files.readMarkedText path).map entriesOf

/-- An entry as a line of a denylist file. -/
def formatEntry (entry : String) : String :=
  "\"" ++ entry ++ "\","

/-- The class on a line of a list of classes. -/
def classOfLine? (line : List Char) : Option String :=
  let text := Text.trim line
  if text.isEmpty || begins "#" text then none else some (String.ofList text)

/-- The classes of a class list's text. -/
def classesOf (text : List Char) : NameSet :=
  NameSet.ofList ((Text.lines text).filterMap classOfLine?)

/-- Read a list of classes. -/
def loadClasses (files : Files.Node) (path : Files.Path) :
    Except Files.TextError NameSet :=
  (files.readMarkedText path).map classesOf

end WinrtLint.Denylist
