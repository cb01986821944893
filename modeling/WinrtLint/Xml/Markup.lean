import WinrtLint.Xml.DocumentType

/-!
# Declarations of a document type

A document type declaration may hold declarations of elements, attributes,
entities and notations in brackets.  Those of entities and attributes are
kept; the others are checked and dropped.
-/

namespace WinrtLint.Xml

/-- How often something may occur, as its mark says. -/
def isOccurrenceMark (char : Char) : Bool :=
  char = '?' || char = '*' || char = '+'

/-- A lexeme inside a declaration. -/
inductive Token where
  | name (written : WrittenName)
  /-- A name with an occurrence mark. -/
  | markedName
  /-- Characters of names in an order that makes no name. -/
  | nameToken
  | literal (inside : List Char)
  /-- A word behind a number sign. -/
  | word (text : String)
  | opening
  /-- A closing parenthesis, perhaps with an occurrence mark. -/
  | closing (mark : Option Char)
  | comma
  | bar
  | percent
  deriving DecidableEq, Repr

namespace Token

/-- A name without a short name in front. -/
def plain (name : String) : Token :=
  .name ⟨none, name⟩

/-- The token that characters of names and colons make. -/
def ofNameChars (chars : List Char) : Token :=
  match takeName? chars with
  | some (first, []) => .plain (String.ofList first)
  | some (first, ':' :: second) =>
      if second.isEmpty || second.contains ':' then .nameToken
      else .name ⟨some (String.ofList first), String.ofList second⟩
  | _ => .nameToken

/-- Whether a token may end in front of a character. -/
def endsBefore (closers : List Char) (rest : List Char) : Bool :=
  rest.head?.any fun char => isSpace char || closers.contains char

/-- A name, perhaps with an occurrence mark, or a name token at the front of a text. -/
def takeNameLike? (text : List Char) : Option (Token × List Char) :=
  let inName := fun char => isNameChar char || char = ':'
  let token := ofNameChars (text.takeWhile inName)
  let rest := text.dropWhile inName
  if (text.takeWhile inName).isEmpty then none
  else if endsBefore ['>', ')', ',', '|', '[', '%'] rest then some (token, rest)
  else
    match rest with
    | [] => none
    | mark :: rest =>
        if isOccurrenceMark mark && token ≠ .nameToken then some (.markedName, rest) else none

/-- The token at the front of a text, and the rest. -/
def take? : List Char → Option (Token × List Char)
  | '(' :: rest => some (.opening, rest)
  | ',' :: rest => some (.comma, rest)
  | '|' :: rest => some (.bar, rest)
  | '%' :: rest => if endsBefore ['%'] rest then some (.percent, rest) else none
  | ')' :: mark :: rest =>
      if isOccurrenceMark mark then some (.closing (some mark), rest)
      else if endsBefore ['>', ',', '|', ')'] (mark :: rest) then
        some (.closing none, mark :: rest)
      else none
  | '#' :: rest => do
      let (inside, rest) ← takeName? rest
      if endsBefore [')', '>', '%', '|'] rest then some (.word (String.ofList inside), rest)
      else none
  | text =>
      match takeLiteral? isAllowed text with
      | some (inside, rest) =>
          if endsBefore ['>', '%', '['] rest then some (.literal inside, rest) else none
      | none => takeNameLike? text

/--
The tokens in front of a bracket, behind those already read, which come
reversed.  The count bounds the tokens.
-/
def takeAllFrom? (tokens : List Token) :
    Nat → List Char → Option (List Token × List Char)
  | 0, _ => none
  | count + 1, text =>
      match text.dropWhile isSpace with
      | '>' :: rest => some (tokens.reverse, '>' :: rest)
      | '[' :: rest => some (tokens.reverse, '[' :: rest)
      | text =>
          match take? text with
          | none => none
          | some (token, rest) => takeAllFrom? (token :: tokens) count rest

/--
The tokens in front of the next bracket, and the text from the bracket on.  The
count bounds the tokens.
-/
def takeAll? (count : Nat) (text : List Char) :
    Option (List Token × List Char) :=
  takeAllFrom? [] count text

end Token

/-! ### Elements and notations -/

/-- What stands between the parts of a group. -/
inductive Connector where
  | sequence
  | choice
  deriving DecidableEq, Repr

/-- Whether a connector fits those already met in its group. -/
def Connector.fits (connector : Connector) (met : Option Connector) : Bool :=
  met.all (· = connector)

/--
Whether tokens complete a content model.  The groups that are open come with
the connectors met in them, innermost first; `wanting` tells whether a part has
to follow.
-/
def completesModel (wanting : Bool) :
    List (Option Connector) → List Token → Bool
  | [], tokens => tokens.isEmpty
  | _ :: _, [] => false
  | met :: outer, token :: rest =>
      match wanting, token with
      | true, .opening => completesModel true (none :: met :: outer) rest
      | true, .name _ => completesModel false (met :: outer) rest
      | true, .markedName => completesModel false (met :: outer) rest
      | false, .closing _ => completesModel false outer rest
      | false, .comma =>
          Connector.sequence.fits met && completesModel true (some .sequence :: outer) rest
      | false, .bar =>
          Connector.choice.fits met && completesModel true (some .choice :: outer) rest
      | _, _ => false

/-- Whether tokens complete a model in which text may stand between elements. -/
def completesMixed : List Token → Bool
  | [.closing none] => true
  | [.closing (some '*')] => true
  | .bar :: .name _ :: rest => completesNames rest
  | _ => false
where
  /-- Whether tokens go on with names and end the model. -/
  completesNames : List Token → Bool
    | [.closing (some '*')] => true
    | .bar :: .name _ :: rest => completesNames rest
    | _ => false

/-- Whether tokens declare an element. -/
def declaresElement : List Token → Bool
  | [.name _, .name ⟨none, "EMPTY"⟩] => true
  | [.name _, .name ⟨none, "ANY"⟩] => true
  | .name _ :: .opening :: .word "PCDATA" :: rest => completesMixed rest
  | .name _ :: .opening :: rest => completesModel true [none] rest
  | _ => false

/-- Whether a literal is a public identifier. -/
def isPublicId (inside : List Char) : Bool :=
  inside.all isPublicChar

/-- What follows an identifier of something outside the document. -/
def afterIdentifier? : List Token → Option (List Token)
  | .name ⟨none, "SYSTEM"⟩ :: .literal _ :: rest => some rest
  | .name ⟨none, "PUBLIC"⟩ :: .literal inside :: .literal _ :: rest =>
      if isPublicId inside then some rest else none
  | _ => none

/-- Whether tokens declare a notation. -/
def declaresNotation : List Token → Bool
  | [.name ⟨none, _⟩, .name ⟨none, "PUBLIC"⟩, .literal inside] => isPublicId inside
  | .name ⟨none, _⟩ :: rest => afterIdentifier? rest = some []
  | _ => false

/-! ### Entities -/

/--
The text of an entity that is written in a given way, behind what is already
known and comes reversed.  References to characters are resolved and those to
entities stay.
-/
def entityTextFrom? (known : List Char) : Nat → List Char → Option (List Char)
  | _, [] => some known.reverse
  | 0, _ :: _ => none
  | count + 1, '&' :: rest =>
      match takeReference? rest with
      | none => none
      | some (reference, after) =>
          let meant :=
            match reference, rest with
            | .char char, '#' :: _ => [char]
            | _, _ => '&' :: (Text.cutFirst ';' rest).1 ++ [';']
          entityTextFrom? (meant.reverse ++ known) count after
  | count + 1, char :: rest =>
      if char = '%' then none else entityTextFrom? (char :: known) count rest

/-- The text of an entity that is written in a given way. -/
def entityText? (written : List Char) : Option (List Char) :=
  entityTextFrom? [] written.length written

/-- The names of the entities that need no declaration. -/
def predefinedNames : List String :=
  ["amp", "lt", "gt", "quot", "apos"]

namespace DocumentType

/-- Take in the text of an entity; where declarations do not count it is not looked at. -/
def declareText?
    (type : DocumentType)
    (name : Option String)
    (written : List Char) :
    Option DocumentType :=
  if type.isCounting then do
    let text ← entityText? written
    match name with
    | some name =>
        if predefinedNames.contains name then some type
        else some (type.declareEntity name (.text text))
    | none => some type
  else some type

/-- Take in the declaration of an entity. -/
def declareEntity? (type : DocumentType) : List Token → Option DocumentType
  | [.percent, .name ⟨none, _⟩, .literal written] => type.declareText? none written
  | .percent :: .name ⟨none, _⟩ :: rest =>
      if afterIdentifier? rest = some [] then some type else none
  | [.name ⟨none, name⟩, .literal written] => type.declareText? (some name) written
  | .name ⟨none, name⟩ :: rest => do
      let outside := type.declareEntity name .outside
      match ← afterIdentifier? rest with
      | [] => some outside
      | [.name ⟨none, "NDATA"⟩, .name ⟨none, _⟩] => some outside
      | _ => none
  | _ => none

/-! ### Attributes -/

/-- The names of the types of attributes that are lists of words. -/
def wordTypes : List String :=
  ["ID", "IDREF", "IDREFS", "ENTITY", "ENTITIES", "NMTOKEN", "NMTOKENS"]

/-- What follows the values of an enumerated type whose parenthesis has been read. -/
def afterValues? (namesOnly : Bool) : List Token → Option (List Token)
  | value :: next :: rest =>
      let fits := match value with
        | .name ⟨space, _⟩ => !namesOnly || space.isNone
        | .nameToken => !namesOnly
        | _ => false
      if !fits then none
      else
        match next with
        | .closing none => some rest
        | .bar => afterValues? namesOnly rest
        | _ => none
  | _ => none

/-- Whether the type of an attribute is a list of words, and what follows the type. -/
def takeType? : List Token → Option (Bool × List Token)
  | .name ⟨none, "CDATA"⟩ :: rest => some (false, rest)
  | .name ⟨none, "NOTATION"⟩ :: .opening :: rest =>
      (afterValues? true rest).map fun rest => (true, rest)
  | .opening :: rest => (afterValues? false rest).map fun rest => (true, rest)
  | .name ⟨none, name⟩ :: rest => if wordTypes.contains name then some (true, rest) else none
  | _ => none

/-- The written default of an attribute, if it has one, and what follows. -/
def takeDefault? : List Token → Option (Option (List Char) × List Token)
  | .word "IMPLIED" :: rest => some (none, rest)
  | .word "REQUIRED" :: rest => some (none, rest)
  | .word "FIXED" :: .literal written :: rest => some (some written, rest)
  | .literal written :: rest => some (some written, rest)
  | _ => none

/-- Take in the rule for one attribute; where declarations do not count it is not looked at. -/
def declareAttribute?
    (type : DocumentType)
    (element name : WrittenName)
    (isWordList : Bool)
    (written : Option (List Char)) :
    Option DocumentType :=
  if type.isCounting then
    match written with
    | none => some (type.declareRule ⟨element, name, isWordList, none⟩)
    | some written => do
        let (fallback, type) ← type.value? [] isWordList written
        return type.declareRule ⟨element, name, isWordList, some fallback⟩
  else some type

/-- Take in the rules for attributes of an element; the count bounds how many they are. -/
def declareAttributes? (element : WrittenName) :
    Nat → DocumentType → List Token → Option DocumentType
  | _, type, [] => some type
  | count + 1, type, .name name :: rest => do
      let (isWordList, rest) ← takeType? rest
      let (written, rest) ← takeDefault? rest
      let type ← type.declareAttribute? element name isWordList written
      declareAttributes? element count type rest
  | _, _, _ => none

/-! ### The internal part -/

/-- Take in a declaration, by the word that says what it declares and its tokens. -/
def declare? (type : DocumentType) (word : String) (tokens : List Token) :
    Option DocumentType :=
  match word, tokens with
  | "ENTITY", tokens => type.declareEntity? tokens
  | "ATTLIST", .name element :: rest => declareAttributes? element rest.length type rest
  | "ELEMENT", tokens => if declaresElement tokens then some type else none
  | "NOTATION", tokens => if declaresNotation tokens then some type else none
  | _, _ => none

/--
Take in a declaration whose opening has been read, and hand back what follows
it.  The count bounds the tokens.
-/
def takeDeclaration? (count : Nat) (type : DocumentType) (text : List Char) :
    Option (DocumentType × List Char) := do
  let (word, rest) ← takeName? text
  let (tokens, rest) ← Token.takeAll? count (← afterSpace? rest)
  let type ← type.declare? (String.ofList word) tokens
  return (type, ← Text.afterStart? ['>'] rest)

/--
Take in the declarations up to a closing bracket.  The first count bounds the
tokens of one declaration, the second one the pieces.
-/
def takeInternal? (tokenCount : Nat) :
    Nat → DocumentType → List Char → Option (DocumentType × List Char)
  | 0, _, _ => none
  | count + 1, type, text =>
      match text.dropWhile isSpace with
      | ']' :: rest => some (type, rest)
      | '<' :: '?' :: rest =>
          match afterInstruction? rest with
          | none => none
          | some rest => takeInternal? tokenCount count type rest
      | '<' :: '!' :: '-' :: '-' :: rest =>
          match afterComment? rest with
          | none => none
          | some rest => takeInternal? tokenCount count type rest
      | '<' :: '!' :: rest =>
          match takeDeclaration? tokenCount type rest with
          | none => none
          | some (type, rest) => takeInternal? tokenCount count type rest
      | '%' :: rest =>
          match takeName? rest with
          | some (_, ';' :: rest) => takeInternal? tokenCount count type.passUnread rest
          | _ => none
      | _ => none

/-- Take in a document type declaration whose opening has been read. -/
def take? (type : DocumentType) (text : List Char) :
    Option (DocumentType × List Char) := do
  let size := text.length + 1
  let (tokens, rest) ← Token.takeAll? size (← afterSpace? text)
  let type ←
    match tokens with
    | [.name _] => some type
    | .name _ :: identifier =>
        if afterIdentifier? identifier = some [] then some { type with isOpenEnded := true }
        else none
    | _ => none
  let (type, rest) ←
    match rest with
    | '[' :: rest => takeInternal? size size type rest
    | rest => some (type, rest)
  return (type, ← Text.afterStart? ['>'] (rest.dropWhile isSpace))

end DocumentType

end WinrtLint.Xml
