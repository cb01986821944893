import WinrtLint.Text.Lines
import WinrtLint.Text.Utf8
import WinrtLint.Xml.NameChar

/-!
# Lexemes of XML

The smallest parts of a document: white space, names, references, quoted
literals, comments and processing instructions.  Each is taken from the front
of a text, and what follows it is handed back.
-/

namespace WinrtLint.Xml

/-- Whether a character is white space of the markup. -/
def isSpace (char : Char) : Bool :=
  char = ' ' || char = '\t' || char = '\n' || char = '\r'

/-- Whether a character may stand in a document at all. -/
def isAllowed (char : Char) : Bool :=
  isSpace char || (0x20 ≤ char.toNat && char.toNat ≠ 0xFFFE && char.toNat ≠ 0xFFFF)

/-- A text whose front is white space, without it. -/
def afterSpace? : List Char → Option (List Char)
  | [] => none
  | char :: rest => if isSpace char then some (rest.dropWhile isSpace) else none

/-! ### Names -/

/-- A name without colon at the front of a text, and the rest. -/
def takeName? : List Char → Option (List Char × List Char)
  | [] => none
  | first :: rest =>
      if isNameStart first then
        some (first :: rest.takeWhile isNameChar, rest.dropWhile isNameChar)
      else none

/-- A name as it is written: a local name, behind a short name for its namespace or not. -/
structure WrittenName where
  space : Option String
  name : String
  deriving DecidableEq, Repr

/-- A written name at the front of a text, and the rest. -/
def takeWrittenName? (text : List Char) : Option (WrittenName × List Char) := do
  let (first, rest) ← takeName? text
  match rest with
  | ':' :: rest =>
      let (second, rest) ← takeName? rest
      if rest.head? = some ':' then none
      else some (⟨some (String.ofList first), String.ofList second⟩, rest)
  | _ => some (⟨none, String.ofList first⟩, rest)

/-! ### References -/

/-- What a reference stands for. -/
inductive Reference where
  | char (value : Char)
  | entity (name : String)
  deriving DecidableEq, Repr

/-- The digit of a base that a character stands for. -/
def digit? (base : Nat) (char : Char) : Option Nat :=
  let value :=
    if char.isDigit then char.toNat - '0'.toNat
    else if 'a' ≤ char && char ≤ 'f' then char.toNat - 'a'.toNat + 10
    else if 'A' ≤ char && char ≤ 'F' then char.toNat - 'A'.toNat + 10
    else base
  if value < base then some value else none

/-- The number that digits of a base stand for. -/
def number? (base : Nat) (digits : List Char) : Option Nat :=
  if digits.isEmpty then none
  else digits.foldlM (fun sofar char => (digit? base char).map (base * sofar + ·)) 0

/-- The character of a code point that may stand in a document. -/
def charOf? (code : Nat) : Option Char :=
  if code.isValidChar && isAllowed (Char.ofNat code) && code ≠ 0 then
    some (Char.ofNat code)
  else none

/-- What the characters between ampersand and semicolon refer to. -/
def reference? : List Char → Option Reference
  | '#' :: 'x' :: digits => ((number? 16 digits).bind charOf?).map .char
  | '#' :: digits => ((number? 10 digits).bind charOf?).map .char
  | ['a', 'm', 'p'] => some (.char '&')
  | ['l', 't'] => some (.char '<')
  | ['g', 't'] => some (.char '>')
  | ['q', 'u', 'o', 't'] => some (.char '"')
  | ['a', 'p', 'o', 's'] => some (.char '\'')
  | name =>
      match takeName? name with
      | some (name, []) => some (.entity (String.ofList name))
      | _ => none

/-- The reference whose ampersand has been read, and the rest. -/
def takeReference? (text : List Char) : Option (Reference × List Char) :=
  match Text.cutFirst ';' text with
  | (inside, some rest) => (reference? inside).map fun reference => (reference, rest)
  | _ => none

/-! ### Literals -/

/-- A quoted text of fitting characters, taken as written, at the front of a text, and the rest. -/
def takeLiteral? (fits : Char → Bool) :
    List Char → Option (List Char × List Char)
  | [] => none
  | quote :: rest =>
      if quote = '"' || quote = '\'' then
        match Text.cutFirst quote rest with
        | (inside, some rest) => if inside.all fits then some (inside, rest) else none
        | _ => none
      else none

/-- Whether a character may stand in a public identifier. -/
def isPublicChar (char : Char) : Bool :=
  char.isAlphanum || " \n\r-'()+,./:=?;!*#@$_%".toList.contains char

/-! ### Comments and processing instructions -/

/-- What stands before a mark, if it occurs, and what stands after it. -/
def cutAt? (mark : List Char) : List Char → Option (List Char × List Char)
  | [] => if mark.isEmpty then some ([], []) else none
  | char :: rest =>
      match Text.afterStart? mark (char :: rest) with
      | some after => some ([], after)
      | none => do
          let (before, after) ← cutAt? mark rest
          return (char :: before, after)

/-- What follows a comment whose opening has been read. -/
def afterComment? (text : List Char) : Option (List Char) := do
  let (inside, rest) ← cutAt? ['-', '-'] text
  if inside.all isAllowed then Text.afterStart? ['>'] rest else none

/-- What follows a processing instruction whose opening has been read. -/
def afterInstruction? (text : List Char) : Option (List Char) := do
  let (target, rest) ← takeName? text
  if Text.Ascii.lower (String.ofList target) = "xml" then none
  let (inside, after) ← cutAt? ['?', '>'] rest
  let separated := match inside with
    | [] => true
    | char :: _ => isSpace char
  if separated && inside.all isAllowed then some after else none

end WinrtLint.Xml
