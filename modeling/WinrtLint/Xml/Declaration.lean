import WinrtLint.Xml.Lexeme

/-!
# The XML declaration

A document may begin with a declaration of its version, of its encoding and of
whether it stands alone, in this order.  Only the version has to be there.
-/

namespace WinrtLint.Xml

/-- What a document says of itself before all else. -/
structure Declaration where
  encoding : Option String := none
  /-- Whether no declaration outside the document matters to it. -/
  isStandalone : Bool := false
  deriving DecidableEq, Repr

namespace Declaration

/-- A character that may stand in a value of the declaration. -/
def isValueChar (char : Char) : Bool :=
  char.isAlphanum || char = '.' || char = '-' || char = '_'

/-- A value of the declaration under a name at the front of a text, and the rest. -/
def takeValue? (name : String) (text : List Char) :
    Option (String × List Char) := do
  let behind ← afterSpace? text
  let rest ← Text.afterStart? name.toList behind
  let rest ← Text.afterStart? ['='] (rest.dropWhile isSpace)
  let (value, rest) ← takeLiteral? isValueChar (rest.dropWhile isSpace)
  return (String.ofList value, rest)

/-- The value under a name, if it is there, and the rest. -/
def takeOptional (name : String) (text : List Char) :
    Option String × List Char :=
  match takeValue? name text with
  | some (value, rest) => (some value, rest)
  | none => (none, text)

/-- Whether a text can name an encoding: it begins with a letter. -/
def isEncodingName (name : String) : Bool :=
  name.toList.head?.any Char.isAlpha

/-- The declaration whose opening has been read, and what follows it. -/
def takeRest? (text : List Char) : Option (Declaration × List Char) := do
  let (_, rest) ← takeValue? "version" text
  let (encoding, rest) := takeOptional "encoding" rest
  let (standalone, rest) := takeOptional "standalone" rest
  let rest ← Text.afterStart? ['?', '>'] (rest.dropWhile isSpace)
  if encoding.all isEncodingName && standalone.all ["yes", "no"].contains then
    some (⟨encoding, standalone = some "yes"⟩, rest)
  else none

/-- The declaration at the front of a document, and what follows it. -/
def take? (text : List Char) : Option (Declaration × List Char) :=
  match Text.afterStart? "<?xml".toList text with
  | none => some ({}, text)
  | some rest =>
      if rest.head?.any isNameChar then some ({}, text) else takeRest? rest

end Declaration

end WinrtLint.Xml
