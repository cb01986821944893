import WinrtLint.Text.Layout
import WinrtLint.Text.Quoted

/-!
# Message templates

A template is literal text with fields in braces; a doubled brace stands for
itself.  A field names an argument: by its number, or by nothing at all and
then takes the next one, and a template uses one of the two ways throughout.
Behind the name may stand parts of the argument to take, a conversion behind
an exclamation mark, and a layout behind a colon, in which fields may stand
again.
-/

namespace WinrtLint.Text.Template

/-- Why a template cannot be filled in. -/
inductive Fault where
  /-- A field asks for an argument, or a character of one, that is not there. -/
  | missingArgument
  /-- A field has a name, and only positions are known. -/
  | unknownField
  /-- A field asks for a property of an argument, and texts have none. -/
  | noProperty
  /-- A field asks for a character of an argument by something that is no number. -/
  | notANumber
  /-- A field is wider than there is room for. -/
  | noRoom
  /-- Braces, numbers, conversions or layouts are wrong, or the ways of naming are mixed. -/
  | malformed
  deriving DecidableEq, Repr

/-- How the fields met so far choose their arguments. -/
inductive Numbering where
  | undecided
  | counting (next : Nat)
  | explicit
  deriving DecidableEq, Repr

/-- The greatest width of a field for which there is room. -/
def greatestWidth : Nat :=
  1000000000

/-- The number that a text consists of, if it is one. -/
def number? (text : List Char) : Except Fault (Option Nat) :=
  match takeNumberFrom? 0 text with
  | none => .error .malformed
  | some (_, _ :: _) => .ok none
  | some (value, []) => .ok (if text.isEmpty then none else some value)

/-- The argument at a position. -/
def argument (arguments : List String) (position : Nat) :
    Except Fault (List Char) :=
  match arguments[position]? with
  | some text => .ok text.toList
  | none => .error .missingArgument

/-- The argument that a name chooses, with the way of numbering from there on. -/
def choose
    (arguments : List String)
    (numbering : Numbering)
    (name : List Char) :
    Except Fault (List Char × Numbering) := do
  match ← number? name, numbering with
  | some _, .counting _ => throw .malformed
  | some position, _ => return (← argument arguments position, .explicit)
  | none, numbering =>
      if !name.isEmpty then throw .unknownField
      else
        match numbering with
        | .explicit => throw .malformed
        | .undecided => return (← argument arguments 0, .counting 1)
        | .counting next => return (← argument arguments next, .counting (next + 1))

/-- A character that ends a name and begins a part. -/
def beginsPart (char : Char) : Bool :=
  char = '.' || char = '['

/-- The character of a text that a part in brackets asks for. -/
def characterAt (text name : List Char) : Except Fault (List Char) := do
  match ← number? name with
  | some position =>
      match text[position]? with
      | some char => return [char]
      | none => throw .missingArgument
  | none => if name.isEmpty then throw .malformed else throw .notANumber

/--
The part of a text that is asked for.  Within brackets, `inside` holds the
characters so far, last first; behind them there has to come another part.
-/
def partOf (text : List Char) (inside : Option (List Char)) :
    List Char → Except Fault (List Char)
  | [] => if inside.isSome then .error .malformed else .ok text
  | char :: rest =>
      match inside with
      | some name =>
          if char = ']' then
            match characterAt text name.reverse with
            | .error fault => .error fault
            | .ok found => partOf found none rest
          else partOf text (some (char :: name)) rest
      | none =>
          if char = '[' then partOf text (some []) rest
          else if char = '.' && rest.head?.any fun next => !beginsPart next then
            .error .noProperty
          else .error .malformed

/-- A text after a conversion, which is named by a letter. -/
def convert (mark : Option Char) (text : List Char) :
    Except Fault (List Char) :=
  match mark with
  | none => .ok text
  | some 's' => .ok text
  | some 'r' => .ok (Quoted.write (String.ofList text)).toList
  | some 'a' => .ok (Quoted.writeAscii (String.ofList text)).toList
  | some _ => .error .malformed

/-- What a field consists of, each part with its last character first. -/
structure Field where
  name : List Char := []
  conversion : Option Char := none
  layout : List Char := []

/-- Fill in what is left of a template, here the layout of a field. -/
abbrev Filling : Type :=
  Numbering → List Char → Except Fault (List Char × Numbering)

/-- The text of a field, with the way of numbering from there on. -/
def fill
    (arguments : List String)
    (expand : Filling)
    (numbering : Numbering)
    (field : Field) :
    Except Fault (List Char × Numbering) := do
  let written := field.name.reverse
  let name := written.takeWhile fun char => !beginsPart char
  let (text, numbering) ← choose arguments numbering name
  let text ← partOf text none (written.dropWhile fun char => !beginsPart char)
  let text ← convert field.conversion text
  let layout := field.layout.reverse
  let (layout, numbering) ←
    if layout.contains '\x7b' then expand numbering layout else pure (layout, numbering)
  match Layout.ofChars? layout with
  | some layout =>
      if greatestWidth < layout.width then throw .noRoom
      else return (layout.apply text, numbering)
  | none => throw .malformed

/-- Where a template is being read. -/
inductive Place where
  /-- Between fields. -/
  | literal
  /-- In the name of a field, perhaps between its brackets. -/
  | name (field : Field) (bracketed : Bool)
  /-- Behind an exclamation mark. -/
  | conversion (field : Field)
  /-- Behind a conversion. -/
  | converted (field : Field)
  /-- In a layout, within some fields besides its own. -/
  | layout (field : Field) (depth : Nat)

/-- Fill in what is left of a template. -/
def fillFrom
    (arguments : List String)
    (expand : Filling)
    (numbering : Numbering) :
    Place → List Char → Except Fault (List Char × Numbering)
  | .literal, [] => .ok ([], numbering)
  | _, [] => .error .malformed
  | .literal, '\x7b' :: '\x7b' :: rest => do
      let (text, numbering) ← fillFrom arguments expand numbering .literal rest
      return ('\x7b' :: text, numbering)
  | .literal, '\x7d' :: '\x7d' :: rest => do
      let (text, numbering) ← fillFrom arguments expand numbering .literal rest
      return ('\x7d' :: text, numbering)
  | .literal, char :: rest =>
      if char = '\x7b' then fillFrom arguments expand numbering (.name {} false) rest
      else if char = '\x7d' then .error .malformed
      else do
        let (text, numbering) ← fillFrom arguments expand numbering .literal rest
        return (char :: text, numbering)
  | .name field bracketed, char :: rest =>
      let longer := { field with name := char :: field.name }
      if bracketed then
        fillFrom arguments expand numbering (.name longer (char != ']')) rest
      else if char = '\x7b' then .error .malformed
      else if char = '!' then fillFrom arguments expand numbering (.conversion field) rest
      else if char = ':' then fillFrom arguments expand numbering (.layout field 0) rest
      else if char = '\x7d' then do
        let (first, numbering) ← fill arguments expand numbering field
        let (others, numbering) ← fillFrom arguments expand numbering .literal rest
        return (first ++ others, numbering)
      else fillFrom arguments expand numbering (.name longer (char == '[')) rest
  | .conversion field, char :: rest =>
      fillFrom arguments expand numbering (.converted { field with conversion := char }) rest
  | .converted field, char :: rest =>
      if char = ':' then fillFrom arguments expand numbering (.layout field 0) rest
      else if char = '\x7d' then do
        let (first, numbering) ← fill arguments expand numbering field
        let (others, numbering) ← fillFrom arguments expand numbering .literal rest
        return (first ++ others, numbering)
      else .error .malformed
  | .layout field depth, char :: rest =>
      let longer := { field with layout := char :: field.layout }
      if char = '\x7b' then fillFrom arguments expand numbering (.layout longer (depth + 1)) rest
      else if char = '\x7d' then
        match depth with
        | depth + 1 => fillFrom arguments expand numbering (.layout longer depth) rest
        | 0 => do
            let (first, numbering) ← fill arguments expand numbering field
            let (others, numbering) ← fillFrom arguments expand numbering .literal rest
            return (first ++ others, numbering)
      else fillFrom arguments expand numbering (.layout longer depth) rest

/-- Fill in a template whose fields stand within each other up to some depth. -/
def fillWithin (arguments : List String) : Nat → Filling
  | 0, _, _ => .error .malformed
  | depth + 1, numbering, template =>
      fillFrom arguments (fillWithin arguments depth) numbering .literal template

/-- Fill in a template; the layout of a field may hold fields, but not those again. -/
def render (template : String) (arguments : List String) :
    Except Fault String :=
  (fillWithin arguments 2 .undecided template.toList).map fun filled => String.ofList filled.1

end WinrtLint.Text.Template
