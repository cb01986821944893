import WinrtLint.Terminal.Color

/-!
# Names of styles

The name of a style is a list of words: attributes, attributes that are taken
back, a color, a color of the background, and the target of a link.  Two names
are of the same style if they have the same normal form, in which every word
has its place.  A name that is none of a style stands for itself in lower case.
-/

namespace WinrtLint.Terminal.StyleName

/-- The attributes of a style in the order of the normal form, each with its shorter names. -/
def attributes : List (String × List String) :=
  [("bold", ["b"]), ("dim", ["d"]), ("italic", ["i"]), ("underline", ["u"]), ("blink", []),
    ("blink2", []), ("reverse", ["r"]), ("conceal", ["c"]), ("strike", ["s"]),
    ("underline2", ["uu"]), ("frame", []), ("encircle", []), ("overline", ["o"])]

/-- The attribute that a word names. -/
def attribute? (word : String) : Option String :=
  (attributes.find? fun (long, short) => long = word || short.contains word).map (·.1)

/-- What a name says about a style. -/
structure Definition where
  /-- The attributes that are given or taken back, the latest word on each first. -/
  settled : List (String × Bool) := []
  color : Option String := none
  background : Option String := none
  link : Option String := none
  deriving DecidableEq, Repr

/-- Give an attribute or take it back. -/
def Definition.settle
    (definition : Definition)
    (name : String)
    (isGiven : Bool) :
    Definition :=
  { definition with settled := (name, isGiven) :: definition.settled }

/-- The normal form of a definition. -/
def Definition.normalForm (definition : Definition) : String :=
  let given := attributes.filterMap fun (name, _) =>
    (definition.settled.lookup name).map fun isGiven => if isGiven then name else "not " ++ name
  let words := given ++ definition.color.toList ++
    definition.background.toList.map ("on " ++ ·) ++ definition.link.toList.map ("link " ++ ·)
  if words.isEmpty then "none" else Text.joinStrings " " words

/-- Read words into a definition; there is none where a word has no meaning. -/
def readFrom (definition : Definition) :
    List String → Except Color.Fault (Option Definition)
  | [] => .ok (some definition)
  | word :: rest =>
      match Text.lower word, rest with
      | "on", [] => .ok none
      | "on", background :: rest => do
          let background := Text.lower background
          if ← Color.isColor background.toList then
            readFrom { definition with background := some background } rest
          else return none
      | "not", [] => .ok none
      | "not", name :: rest =>
          match attribute? name with
          | some name => readFrom (definition.settle name false) rest
          | none => .ok none
      | "link", [] => .ok none
      | "link", target :: rest => readFrom { definition with link := some target } rest
      | word, rest =>
          match attribute? word with
          | some name => readFrom (definition.settle name true) rest
          | none => do
              if ← Color.isColor word.toList then
                readFrom { definition with color := some word } rest
              else return none

/-- The words of a text. -/
def wordsOf (text : List Char) : List String :=
  let marked := text.map fun char => if Text.isBlank char then ' ' else char
  ((Text.pieces ' ' marked).filter fun word => !word.isEmpty).map String.ofList

/-- The definition that a name gives. -/
def read (name : List Char) : Except Color.Fault (Option Definition) :=
  match wordsOf name with
  | ["none"] => .ok (some {})
  | words => readFrom {} words

/-- The normal form of a name. -/
def normalize (name : List Char) : Except Color.Fault String := do
  match ← read name with
  | some definition => return definition.normalForm
  | none => return Text.lower (String.ofList (Text.trim name))

end WinrtLint.Terminal.StyleName
