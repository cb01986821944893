import WinrtLint.Xml.Lexeme

/-!
# Document types

What a document declares about itself beyond its elements: entities, which are
names for pieces of text, and attributes, which may have a value where a start
tag does not give one.  The values of attributes are filled in here.
-/

namespace WinrtLint.Xml

/-- What an entity stands for. -/
inductive Entity where
  /-- Characters that take the place of a reference. -/
  | text (characters : List Char)
  /-- Something outside the document, which is not read. -/
  | outside
  deriving DecidableEq, Repr

/-- What is declared about an attribute of an element. -/
structure AttributeRule where
  element : WrittenName
  name : WrittenName
  /-- Whether the value is a list of words, between which spaces do not count. -/
  isWordList : Bool
  /-- The value where a start tag gives none. -/
  fallback : Option String
  deriving DecidableEq, Repr

/-- The declarations of a document. -/
structure DocumentType where
  /-- Whether the document says that nothing outside it matters. -/
  isStandalone : Bool := false
  /-- How many bytes the texts of entities may still add to the document. -/
  room : Nat
  /-- The entities by name. -/
  entities : List (String × Entity) := []
  /-- The rules for attributes, in the order of their declarations. -/
  rules : List AttributeRule := []
  /-- Whether declarations stand outside the document as well. -/
  isOpenEnded : Bool := false
  /-- Whether declarations still count; those behind an unread one may not. -/
  isCounting : Bool := true
  deriving DecidableEq, Repr

/-- A text that is being read: the text of an entity, or one in the document itself. -/
structure Layer where
  entity : Option String
  rest : List Char
  deriving DecidableEq, Repr

namespace DocumentType

/-- How many bytes a text takes. -/
def sizeOf (text : List Char) : Nat :=
  text.foldl (fun sofar char => sofar + char.utf8Size) 0

/-- The size of documents up to which it does not matter how much of them are entities. -/
def harmlessSize : Nat :=
  0x800000

/-- How many times its own size a greater document may have with its entities. -/
def greatestFactor : Nat :=
  100

/-- How many bytes entities may add to a document of some size. -/
def roomFor (size : Nat) : Nat :=
  max (harmlessSize - 1 - size) ((greatestFactor - 1) * size)

/-- The document type of a document of some size that declares nothing. -/
def start (isStandalone : Bool) (size : Nat) : DocumentType where
  isStandalone
  room := roomFor size

/-- The declarations after the text of an entity has been read, if there is room for it. -/
def include? (type : DocumentType) (text : List Char) : Option DocumentType :=
  let size := sizeOf text
  if type.room < size then none else some { type with room := type.room - size }

/-- The declarations with an entity more; the first declaration of a name counts. -/
def declareEntity (type : DocumentType) (name : String) (entity : Entity) :
    DocumentType :=
  if type.isCounting && (type.entities.lookup name).isNone then
    { type with entities := (name, entity) :: type.entities }
  else type

/-- The rule for an attribute of an element. -/
def rule? (type : DocumentType) (element name : WrittenName) :
    Option AttributeRule :=
  type.rules.find? fun rule => rule.element = element && rule.name = name

/-- The declarations with a rule more; the first one for an attribute counts. -/
def declareRule (type : DocumentType) (rule : AttributeRule) : DocumentType :=
  if type.isCounting && (type.rule? rule.element rule.name).isNone then
    { type with rules := type.rules ++ [rule] }
  else type

/-- The declarations after a reference to declarations that are not read. -/
def passUnread (type : DocumentType) : DocumentType :=
  { type with isOpenEnded := true, isCounting := type.isCounting && type.isStandalone }

/-- The text of an entity that is declared with one. -/
def textOf? (type : DocumentType) (name : String) : Option (List Char) :=
  match type.entities.lookup name with
  | some (.text characters) => some characters
  | _ => none

/--
The text of an entity inside a value.  One that is not declared stands for
nothing if it may be declared outside the document.
-/
def valueTextOf? (type : DocumentType) (name : String) : Option (List Char) :=
  if (type.entities.lookup name).isNone && type.isOpenEnded && !type.isStandalone then some []
  else type.textOf? name

/-! ### Values -/

/--
The characters of a value behind those already known, which come reversed, and
the declarations after it.  The layers hold what is still to be read, innermost
first; `busy` holds the entities inside whose text the value stands.  White
space becomes a space.  The count bounds the steps.
-/
def fillFrom? (busy : List String) (known : List Char) :
    Nat → DocumentType → List Layer → Option (List Char × DocumentType)
  | _, type, [] => some (known.reverse, type)
  | 0, _, _ :: _ => none
  | count + 1, type, ⟨_, []⟩ :: outer => fillFrom? busy known count type outer
  | count + 1, type, ⟨entity, char :: rest⟩ :: outer =>
      if char = '&' then
        match takeReference? rest with
        | none => none
        | some (.char meant, rest) =>
            fillFrom? busy (meant :: known) count type (⟨entity, rest⟩ :: outer)
        | some (.entity name, rest) =>
            let layers : List Layer := ⟨entity, rest⟩ :: outer
            if busy.contains name || layers.any fun layer => layer.entity = some name then none
            else
              match type.valueTextOf? name with
              | none => none
              | some text =>
                  match type.include? text with
                  | none => none
                  | some type => fillFrom? busy known count type (⟨some name, text⟩ :: layers)
      else if char = '<' || !isAllowed char then none
      else
        fillFrom? busy ((if isSpace char then ' ' else char) :: known) count type
          (⟨entity, rest⟩ :: outer)

/-- Words with one space between them. -/
def squeeze (value : List Char) : List Char :=
  Text.joinWith ' ' ((Text.pieces ' ' value).filter fun word => !word.isEmpty)

/-- How many steps it takes at most to read a text of some length with its entities. -/
def stepsFor (type : DocumentType) (length : Nat) : Nat :=
  2 * (length + type.room) + 1

/--
The value that is written in a given way, for a list of words or not, and the
declarations after it.
-/
def value?
    (type : DocumentType)
    (busy : List String)
    (isWordList : Bool)
    (written : List Char) :
    Option (String × DocumentType) := do
  let (value, type) ← fillFrom? busy [] (type.stepsFor written.length) type [⟨none, written⟩]
  return (String.ofList (if isWordList then squeeze value else value), type)

/-- The values that an element has where its start tag does not give them. -/
def defaultsOf
    (type : DocumentType)
    (element : WrittenName)
    (given : List WrittenName) :
    List (WrittenName × String) :=
  type.rules.filterMap fun rule =>
    if rule.element = element && !given.contains rule.name then
      rule.fallback.map fun value => (rule.name, value)
    else none

end DocumentType

end WinrtLint.Xml
