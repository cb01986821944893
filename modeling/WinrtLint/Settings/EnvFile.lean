import WinrtLint.Settings.Environment
import WinrtLint.Text.Blank

/-!
# Environment files

An environment file is a sequence of statements `name=value`.  Values stand
bare, in single quotes or in double quotes; quoted values may go over several
lines.  A value may refer to variables in the form of a dollar sign and a name
in braces.  What is no statement is passed over up to the end of its line.

A file sets the variables that the environment does not have yet.
-/

namespace WinrtLint.Settings.EnvFile

/-- A name and its value; a bare name has none. -/
structure Binding where
  name : String
  value : Option String
  deriving DecidableEq, Repr

/-! ### Statements -/

/-- How many lines of a text are ended. -/
def lineEnds (text : List Char) : Nat :=
  text.count '\n'

/-- A place in a file. -/
structure Cursor where
  /-- The number of the line; the first one has the number one. -/
  line : Nat
  /-- The text from the place on. -/
  text : List Char
  deriving DecidableEq, Repr

namespace Cursor

/-- A later place on the same line. -/
def along (cursor : Cursor) (text : List Char) : Cursor :=
  { cursor with text }

/-- The place behind a text that stands before the rest. -/
def past (cursor : Cursor) (passed rest : List Char) : Cursor :=
  ⟨cursor.line + lineEnds passed, rest⟩

/-- The place behind the blanks, those at the ends of lines included. -/
def skipBlanks (cursor : Cursor) : Cursor :=
  cursor.past (cursor.text.takeWhile Text.isBlank) (cursor.text.dropWhile Text.isBlank)

/-- The beginning of the next line, or the end of the file. -/
def nextLine (cursor : Cursor) : Cursor :=
  match cursor.text.dropWhile (· ≠ '\n') with
  | [] => cursor.along []
  | _ :: rest => ⟨cursor.line + 1, rest⟩

end Cursor

/-- A blank that does not end a line. -/
def isInlineBlank (char : Char) : Bool :=
  Text.isBlank char && char ≠ '\n'

/-- Pass over the blanks that do not end the line. -/
def skipInline (text : List Char) : List Char :=
  text.dropWhile isInlineBlank

/-- Pass over the word `export` if blanks follow it on the line. -/
def skipExport (text : List Char) : List Char :=
  match Text.afterStart? "export".toList text with
  | some (char :: rest) => if isInlineBlank char then skipInline rest else text
  | _ => text

/-- A character of a name without quotes. -/
def isNameChar (char : Char) : Bool :=
  !(char = '=' || char = '#' || Text.isBlank char)

/--
The name at the beginning of a statement and what follows it; there is none in
front of a comment.  Where a name is malformed, the place stays.
-/
def takeName (cursor : Cursor) : Except Cursor (Option String × Cursor) :=
  match cursor.text with
  | '#' :: _ => .ok (none, cursor)
  | '\'' :: rest =>
      match Text.cutFirst '\'' rest with
      | (char :: name, some after) =>
          .ok (some (String.ofList (char :: name)), cursor.past (char :: name) after)
      | _ => .error cursor
  | text =>
      match text.takeWhile isNameChar with
      | [] => .error cursor
      | name => .ok (some (String.ofList name), cursor.along (text.dropWhile isNameChar))

/--
Cut a quoted text at the quote that closes it.  A backslash and the character
behind it stand together, so a quote behind a backslash does not close the
text.  What stands in front comes reversed as `passed`.
-/
def cutQuotedFrom? (quote : Char) (passed : List Char) :
    List Char → Option (List Char × List Char)
  | [] => none
  | '\\' :: char :: rest => cutQuotedFrom? quote (char :: '\\' :: passed) rest
  | char :: rest =>
      if char = quote then some (passed.reverse, rest)
      else cutQuotedFrom? quote (char :: passed) rest

/-- Cut a quoted text at the quote that closes it. -/
def cutQuoted? (quote : Char) (text : List Char) :
    Option (List Char × List Char) :=
  cutQuotedFrom? quote [] text

/-- Replace the pairs of a backslash and a character that has a meaning behind it. -/
def unescape (meaning : Char → Option Char) : List Char → List Char
  | [] => []
  | [char] => [char]
  | char :: next :: rest =>
      match if char = '\\' then meaning next else none with
      | some meant => meant :: unescape meaning rest
      | none => char :: unescape meaning (next :: rest)

/-- What a character means behind a backslash in single quotes. -/
def singleQuoteEscape : Char → Option Char
  | '\\' => some '\\'
  | '\'' => some '\''
  | _ => none

/-- What a character means behind a backslash in double quotes. -/
def doubleQuoteEscape : Char → Option Char
  | '\\' => some '\\'
  | '\'' => some '\''
  | '"' => some '"'
  | 'a' => some '\x07'
  | 'b' => some '\x08'
  | 'f' => some '\x0c'
  | 'n' => some '\n'
  | 'r' => some '\r'
  | 't' => some '\t'
  | 'v' => some '\x0b'
  | _ => none

/-- What stands before the blanks in front of a number sign, if there is one. -/
def beforeComment : List Char → List Char
  | [] => []
  | [char] => [char]
  | char :: next :: rest =>
      if Text.isBlank char && next = '#' then []
      else char :: beforeComment (next :: rest)

/--
A quoted value, of which the text behind the first quote is given, and what
follows it.  Where no quote closes it, the place stays.
-/
def takeQuoted
    (quote : Char)
    (meaning : Char → Option Char)
    (cursor : Cursor)
    (text : List Char) :
    Except Cursor (String × Cursor) :=
  match cutQuoted? quote text with
  | some (inside, after) =>
      .ok (String.ofList (unescape meaning inside), cursor.past inside after)
  | none => .error cursor

/--
The value that follows the blanks behind an equals sign, and what follows it.
A number sign behind such a blank begins a comment, so the value is empty.
-/
def takeValue (blankBefore : Bool) (cursor : Cursor) :
    Except Cursor (String × Cursor) :=
  match cursor.text with
  | '\'' :: rest => takeQuoted '\'' singleQuoteEscape cursor rest
  | '"' :: rest => takeQuoted '"' doubleQuoteEscape cursor rest
  | text =>
      let line := text.takeWhile (· ≠ '\n')
      let value :=
        if blankBefore && line.head? = some '#' then []
        else Text.dropEndWhile Text.isBlank (beforeComment line)
      .ok (String.ofList value, cursor.along (text.dropWhile (· ≠ '\n')))

/-- The place behind a statement's line, at whose end a comment may stand. -/
def takeEnd (cursor : Cursor) : Except Cursor Cursor :=
  let after :=
    match skipInline cursor.text with
    | '#' :: comment => cursor.along (comment.dropWhile (· ≠ '\n'))
    | _ => cursor
  match skipInline after.text with
  | [] => .ok (after.along [])
  | '\n' :: _ => .ok after.nextLine
  | _ => .error after

/--
The statement at a place, if it binds a name, and the place behind it.  Where
the statement is malformed, there is the place up to which it is not.
-/
def takeStatement (cursor : Cursor) :
    Except Cursor (Option Binding × Cursor) := do
  let (name, cursor) ← takeName (cursor.along (skipExport cursor.text))
  let cursor := cursor.along (skipInline cursor.text)
  let (value, cursor) ←
    match cursor.text with
    | '=' :: rest => do
        let (value, cursor) ←
          takeValue (rest.head?.any isInlineBlank) (cursor.along (skipInline rest))
        pure (some value, cursor)
    | _ => pure (none, cursor)
  let cursor ← takeEnd cursor
  return (name.map fun name => ⟨name, value⟩, cursor)

/-- A piece of a file. -/
inductive Statement where
  /-- A name with or without a value. -/
  | binding (value : Binding)
  /-- A comment, or nothing but blanks. -/
  | nothing
  /-- What is no statement; `line` is the number of the line where the piece begins. -/
  | malformed (line : Nat)
  deriving DecidableEq, Repr

/-- What a statement binds. -/
def Statement.binding? : Statement → Option Binding
  | .binding value => some value
  | _ => none

/-- The line of a statement that is malformed. -/
def Statement.malformedLine? : Statement → Option Nat
  | .malformed line => some line
  | _ => none

/-- At most `count` statements from a place on. -/
def statementsUpTo : Nat → Cursor → List Statement
  | 0, _ => []
  | count + 1, cursor =>
      let start := cursor.skipBlanks
      if start.text.isEmpty then []
      else
        match takeStatement start with
        | .ok (some binding, next) => .binding binding :: statementsUpTo count next
        | .ok (none, next) => .nothing :: statementsUpTo count next
        | .error left => .malformed cursor.line :: statementsUpTo count left.nextLine

/--
The statements of a file in order.  Every statement uses up a character, so
there are no more statements than characters.
-/
def statements (text : List Char) : List Statement :=
  statementsUpTo text.length ⟨1, text⟩

/-- The bindings of a file in order. -/
def bindings (text : List Char) : List Binding :=
  (statements text).filterMap Statement.binding?

/-- The lines of a file at which malformed statements begin. -/
def malformedLines (text : List Char) : List Nat :=
  (statements text).filterMap Statement.malformedLine?

/-- The remark about a malformed statement. -/
def malformedRemark (line : Nat) : String :=
  "python-dotenv could not parse statement starting at line " ++ toString line

/-! ### References -/

/-- A piece of a value. -/
inductive Piece where
  /-- A character that stands for itself. -/
  | char (value : Char)
  /-- The value of a variable, or another text if it has none. -/
  | reference (name fallback : String)
  deriving DecidableEq, Repr

/-- The reference whose opening brace stands in front of a text, and what follows it. -/
def reference? (text : List Char) : Option (Piece × List Char) :=
  let name := String.ofList (text.takeWhile fun char => char ≠ '\x7d' && char ≠ ':')
  match text.dropWhile fun char => char ≠ '\x7d' && char ≠ ':' with
  | '\x7d' :: rest => some (.reference name "", rest)
  | ':' :: '-' :: more =>
      match Text.cutFirst '\x7d' more with
      | (fallback, some rest) => some (.reference name (String.ofList fallback), rest)
      | _ => none
  | _ => none

/-- Whether the only reason why a text behind an opening brace is no reference is its end. -/
def isUnclosed (text : List Char) : Bool :=
  match text.dropWhile fun char => char ≠ '\x7d' && char ≠ ':' with
  | [] => true
  | ':' :: '-' :: more => !more.contains '\x7d'
  | _ => false

/--
At most `count` pieces of a value.  There is no reference further on once one
is not closed.
-/
def piecesUpTo : Nat → List Char → List Piece
  | 0, _ => []
  | _ + 1, [] => []
  | count + 1, '$' :: '\x7b' :: text =>
      match reference? text with
      | some (piece, rest) => piece :: piecesUpTo count rest
      | none =>
          if isUnclosed text then ('$' :: '\x7b' :: text).map .char
          else .char '$' :: piecesUpTo count ('\x7b' :: text)
  | count + 1, char :: rest => .char char :: piecesUpTo count rest

/-- The pieces of a value; each of them uses up a character. -/
def pieces (text : List Char) : List Piece :=
  piecesUpTo text.length text

/-- The text of a piece, given the values of variables. -/
def Piece.resolve (lookup : String → Option String) : Piece → String
  | .char value => value.toString
  | .reference name fallback => (lookup name).getD fallback

/-- A value with its references resolved. -/
def resolve (lookup : String → Option String) (value : String) : String :=
  String.join ((pieces value.toList).map (Piece.resolve lookup))

/--
What a name stands for in a reference: its value in the environment, else the
one that the file gave it before.  A bare name stands for no characters.
-/
def lookup
    (environment : Environment)
    (earlier : Dictionary String (Option String))
    (name : String) :
    Option String :=
  match environment.get? name with
  | some value => some value
  | none => (earlier.get? name).map (·.getD "")

/-- The values that bindings give, each resolved by those before; the last one counts. -/
def resolveAll (environment : Environment) (bindings : List Binding) :
    Dictionary String (Option String) :=
  bindings.foldl (fun earlier binding =>
    earlier.insert binding.name
      (binding.value.map (resolve (lookup environment earlier)))) .empty

/--
Set the variables that an environment does not have.  The first variable that
cannot be set ends it; those before it stay set.
-/
def setMissing (environment : Environment) :
    List (String × Option String) → Environment × Except VariableError Unit
  | [] => (environment, .ok ())
  | (_, none) :: rest => setMissing environment rest
  | (name, some value) :: rest =>
      if environment.contains name then setMissing environment rest
      else
        match environment.set name value with
        | .error fault => (environment, .error fault)
        | .ok environment => setMissing environment rest

/-- Set the variables of a file's text. -/
def apply (environment : Environment) (text : List Char) :
    Environment × Except VariableError Unit :=
  setMissing environment (resolveAll environment (bindings text)).entries

end WinrtLint.Settings.EnvFile
