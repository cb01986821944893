import WinrtLint.Xml.Element
import WinrtLint.Xml.Encoding
import WinrtLint.Xml.Markup

/-!
# Reading XML

A document is read for its elements, in the order of their start tags.  It has
to be well formed and its names have to be bound to namespaces; what stands
between the tags is checked and dropped.  The text of an entity is read in the
place of a reference to it, and holds whole elements only.
-/

namespace WinrtLint.Xml

/-- One attribute, behind white space, with its value as written, and the rest. -/
def takeAttribute? (text : List Char) :
    Option ((WrittenName × List Char) × List Char) := do
  let (name, rest) ← takeWrittenName? (text.dropWhile isSpace)
  match rest.dropWhile isSpace with
  | '=' :: rest =>
      let (value, rest) ← takeLiteral? isAllowed (rest.dropWhile isSpace)
      return ((name, value), rest)
  | _ => none

/-- How a start tag ends. -/
inductive TagEnd where
  | opened
  | closed
  deriving DecidableEq, Repr

/--
The attributes of a start tag, how it ends, and the rest.  Each attribute
stands behind white space.  The first argument bounds the count of attributes.
-/
def takeAttributes? :
    Nat → List Char → Option (List (WrittenName × List Char) × TagEnd × List Char)
  | _, '>' :: rest => some ([], .opened, rest)
  | _, '/' :: '>' :: rest => some ([], .closed, rest)
  | 0, _ => none
  | bound + 1, text =>
      match text with
      | [] => none
      | char :: _ =>
          if !isSpace char then none
          else
            match text.dropWhile isSpace with
            | '>' :: rest => some ([], .opened, rest)
            | '/' :: '>' :: rest => some ([], .closed, rest)
            | _ => do
                let (first, rest) ← takeAttribute? text
                let (others, tagEnd, rest) ← takeAttributes? bound rest
                return (first :: others, tagEnd, rest)

/-- An element whose end tag has not been met. -/
structure OpenElement where
  name : WrittenName
  /-- The namespaces inside it. -/
  bindings : Bindings
  /-- How many elements are open inside it, itself included. -/
  depth : Nat

/-- The text of an entity that is being read. -/
structure Inclusion where
  entity : String
  /-- How many elements were open where it began. -/
  depth : Nat
  /-- What follows the reference. -/
  after : List Char

/-- How far a document has been read. -/
structure Progress where
  type : DocumentType
  /-- The elements that are open, innermost first. -/
  openElements : List OpenElement := []
  /-- The elements met so far, last first. -/
  elements : List Element := []
  hasDoctype : Bool := false
  /-- The entities whose text is being read, innermost first. -/
  inclusions : List Inclusion := []

namespace Progress

/-- Whether the outermost element has been met. -/
def hasRoot (progress : Progress) : Bool :=
  !progress.elements.isEmpty

/-- How many elements are open. -/
def depth (progress : Progress) : Nat :=
  (progress.openElements.head?.map (·.depth)).getD 0

/-- The namespaces in force. -/
def bindings (progress : Progress) : Bindings :=
  (progress.openElements.head?.map (·.bindings)).getD []

/-- The entities whose text is being read. -/
def busy (progress : Progress) : List String :=
  progress.inclusions.map (·.entity)

/-- Whether all elements that the text at hand has opened are closed. -/
def isBalanced (progress : Progress) : Bool :=
  match progress.inclusions with
  | [] => progress.openElements.isEmpty
  | inclusion :: _ => progress.depth = inclusion.depth

/-- A document after the start tag of an element with given bindings inside it. -/
def enter (progress : Progress) (name : WrittenName) (bindings : Bindings) :
    Progress :=
  let element := ⟨name, bindings, progress.depth + 1⟩
  { progress with openElements := element :: progress.openElements }

end Progress

/-- The attributes that a start tag gives, with their values, and the declarations after it. -/
def givenValues? (busy : List String) (element : WrittenName) :
    DocumentType → List (WrittenName × List Char) →
      Option (List (WrittenName × String) × DocumentType)
  | type, [] => some ([], type)
  | type, (name, written) :: rest => do
      let rule := type.rule? element name
      let (value, type) ← type.value? busy (rule.any (·.isWordList)) written
      let (others, type) ← givenValues? busy element type rest
      return ((name, value) :: others, type)

/--
Take in a start tag whose opening bracket has been read.  The first argument
bounds the count of attributes.
-/
def startTag? (bound : Nat) (progress : Progress) (text : List Char) :
    Option (Progress × List Char) := do
  if progress.openElements.isEmpty && progress.hasRoot then none
  let (name, rest) ← takeWrittenName? text
  let (written, tagEnd, rest) ← takeAttributes? bound rest
  let (given, type) ← givenValues? progress.busy name progress.type written
  let attributes := given ++ type.defaultsOf name (given.map (·.1))
  let (element, bindings) ← element? progress.bindings name attributes
  let met := { progress with type, elements := element :: progress.elements }
  match tagEnd with
  | .opened => return (met.enter name bindings, rest)
  | .closed => return (met, rest)

/-- Take in an end tag whose opening has been read. -/
def endTag? (progress : Progress) (text : List Char) :
    Option (Progress × List Char) := do
  let (name, rest) ← takeWrittenName? text
  if progress.isBalanced then none
  match progress.openElements with
  | [] => none
  | element :: outer =>
      if name ≠ element.name then none
      let rest ← Text.afterStart? ['>'] (rest.dropWhile isSpace)
      return ({ progress with openElements := outer }, rest)

/-- Take in a reference between tags whose ampersand has been read. -/
def referenceBetween? (progress : Progress) (text : List Char) :
    Option (Progress × List Char) := do
  match ← takeReference? text with
  | (.char _, rest) => return (progress, rest)
  | (.entity name, after) =>
      let characters ← progress.type.textOf? name
      if progress.inclusions.any (·.entity = name) then none
      let type ← progress.type.include? characters
      let inclusion := ⟨name, progress.depth, after⟩
      return ({ progress with type, inclusions := inclusion :: progress.inclusions }, characters)

/--
Take in the piece of a document, a character at least, at the front of a text.
The first argument bounds the count of attributes in it.
-/
def step? (bound : Nat) (progress : Progress) (char : Char) (rest : List Char) :
    Option (Progress × List Char) :=
  let inside := !progress.openElements.isEmpty
  if char = '<' then
    match rest with
    | '/' :: rest => endTag? progress rest
    | '?' :: rest => (afterInstruction? rest).map fun rest => (progress, rest)
    | '!' :: '-' :: '-' :: rest => (afterComment? rest).map fun rest => (progress, rest)
    | '!' :: rest =>
        if inside then do
          let rest ← Text.afterStart? "[CDATA[".toList rest
          let (content, rest) ← cutAt? [']', ']', '>'] rest
          if content.all isAllowed then some (progress, rest) else none
        else if progress.hasRoot || progress.hasDoctype then none
        else do
          let rest ← Text.afterStart? "DOCTYPE".toList rest
          let (type, rest) ← progress.type.take? rest
          return ({ progress with type, hasDoctype := true }, rest)
    | _ => startTag? bound progress rest
  else if !inside then if isSpace char then some (progress, rest) else none
  else if char = '&' then referenceBetween? progress rest
  else if !isAllowed char then none
  else if char = ']' && (Text.afterStart? [']', '>'] rest).isSome then none
  else some (progress, rest)

/--
Read a text to its end, and then what follows the references that led to it.
The first argument bounds the count of pieces.
-/
def readFrom? : Nat → Progress → List Char → Option Progress
  | 0, _, _ => none
  | bound + 1, progress, [] =>
      match progress.inclusions with
      | [] => some progress
      | inclusion :: inclusions =>
          if progress.isBalanced then
            readFrom? bound { progress with inclusions } inclusion.after
          else none
  | bound + 1, progress, char :: rest =>
      match step? bound progress char rest with
      | none => none
      | some (progress, rest) => readFrom? bound progress rest

/-- The elements of a document in the order of their start tags. -/
def elements? (text : List Char) : Option (List Element) := do
  let (declaration, body) ← Declaration.take? (Text.unifyLineFeeds text)
  let type := DocumentType.start declaration.isStandalone (DocumentType.sizeOf body)
  let progress ← readFrom? (type.stepsFor body.length) { type } body
  if progress.isBalanced && progress.hasRoot then some progress.elements.reverse else none

/-- The elements of a document in a file. -/
def elementsOf (bytes : List UInt8) : Except EncodingFault (List Element) := do
  match elements? (← Encoding.decode bytes) with
  | some elements => return elements
  | none => throw .malformed

end WinrtLint.Xml
