import WinrtLint.Text.Blank

/-!
# Literals

A literal is a constant that is written out: a number, a string of characters
or bytes, a constant with a name, a group of literals between round brackets,
or a set or a table of literals between braces.  A number may have a sign, and
a real number and an imaginary one may be added.  What can be changed, a set or
a table, is no element of a set and no key of a table.
-/

namespace WinrtLint.Text.Literal

/-- The smallest parts of a literal. -/
inductive Token where
  | number (isImaginary : Bool)
  | string (isBytes : Bool)
  /-- A constant with a name. -/
  | constant
  /-- The name of the function that makes a set. -/
  | setName
  | sign
  | openGroup
  | closeGroup
  | openBrace
  | closeBrace
  | comma
  | colon
  deriving DecidableEq, Repr

/-- A character that may stand in a name; those beyond ASCII are not told apart. -/
def isNameChar (char : Char) : Bool :=
  char.isAlphanum || char = '_' || 128 ≤ char.toNat

/-- Digits of a class behind others, among which single underscores may stand, and the rest. -/
def moreDigits (isDigit : Char → Bool) : List Char → List Char × List Char
  | [] => ([], [])
  | [char] => if isDigit char then ([char], []) else ([], [char])
  | char :: next :: rest =>
      if isDigit char then
        let (digits, after) := moreDigits isDigit (next :: rest)
        (char :: digits, after)
      else if char = '_' && isDigit next then
        let (digits, after) := moreDigits isDigit rest
        (next :: digits, after)
      else ([], char :: next :: rest)

/-- Digits of a class at the front, among which single underscores may stand, and the rest. -/
def takeDigits (isDigit : Char → Bool) (text : List Char) :
    List Char × List Char :=
  if text.head?.any isDigit then moreDigits isDigit text else ([], text)

/-- The most digits that a whole number may have. -/
def longestNumber : Nat :=
  4300

/-- The digits of a number in a base that is marked by a letter. -/
def basedDigit? (mark : Char) : Option (Char → Bool) :=
  match mark.toLower with
  | 'x' => some fun char => char.isDigit || ('a' ≤ char.toLower && char.toLower ≤ 'f')
  | 'o' => some fun char => '0' ≤ char && char ≤ '7'
  | 'b' => some fun char => char = '0' || char = '1'
  | _ => none

/-- What is left behind the exponent of a number, if it has one. -/
def dropExponent (text : List Char) : List Char :=
  match text with
  | mark :: rest =>
      if mark.toLower ≠ 'e' then text
      else
        let unsigned :=
          match rest with
          | '+' :: rest => rest
          | '-' :: rest => rest
          | rest => rest
        match takeDigits Char.isDigit unsigned with
        | ([], _) => text
        | (_, after) => after
  | [] => []

/-- A decimal number at the front and what is left. -/
def takeDecimal? (text : List Char) : Option (Token × List Char) :=
  let (whole, behind) := takeDigits Char.isDigit text
  let fraction :=
    match behind with
    | '.' :: rest => (takeDigits Char.isDigit rest).2
    | rest => rest
  let after := dropExponent fraction
  match after with
  | mark :: rest =>
      if mark.toLower = 'j' then some (.number true, rest)
      else finish whole behind after
  | [] => finish whole behind after
where
  /-- A number that is not imaginary; a whole one begins with a zero only if it is zero. -/
  finish (whole behind after : List Char) : Option (Token × List Char) :=
    if after.length < behind.length then some (.number false, after)
    else if longestNumber < whole.length then none
    else if whole.head? = some '0' && whole.any (· ≠ '0') then none
    else some (.number false, after)

/-- A number at the front and what is left; no name may follow it. -/
def takeNumber? (text : List Char) : Option (Token × List Char) := do
  let (token, rest) ←
    match text with
    | '0' :: mark :: rest =>
        match basedDigit? mark with
        | some isDigit =>
            let digits := match rest with
              | '_' :: digits => digits
              | digits => digits
            match takeDigits isDigit digits with
            | ([], _) => none
            | (_, after) => some (.number false, after)
        | none => takeDecimal? text
    | _ => takeDecimal? text
  if rest.head?.any isNameChar then none else some (token, rest)

/--
The characters up to a quote, given those before, last first, and what is left
behind it.  A quote behind a backslash ends nothing; a line ends only a string
between single quotes, which has to be over then.
-/
def takeQuoted? (quote : Char) (isLong : Bool) (sofar : List Char) :
    List Char → Option (List Char × List Char)
  | [] => none
  | '\\' :: char :: rest => takeQuoted? quote isLong (char :: '\\' :: sofar) rest
  | char :: rest =>
      if char = '\\' || (char = '\n' && !isLong) then none
      else if char ≠ quote then takeQuoted? quote isLong (char :: sofar) rest
      else if !isLong then some (sofar.reverse, rest)
      else
        match rest with
        | second :: third :: after =>
            if second = quote && third = quote then some (sofar.reverse, after)
            else takeQuoted? quote isLong (char :: sofar) rest
        | _ => none

/-- A digit of a hexadecimal number. -/
def isHexDigit (char : Char) : Bool :=
  char.isDigit || ('a' ≤ char.toLower && char.toLower ≤ 'f')

/-- The value of hexadecimal digits. -/
def hexValue (digits : List Char) : Nat :=
  digits.foldl (fun sofar char =>
    16 * sofar + (if char.isDigit then char.toNat - 48 else char.toLower.toNat - 87)) 0

/-- How many hexadecimal digits follow the letter of an escape. -/
def escapeLength (isBytes : Bool) (letter : Char) : Nat :=
  if letter = 'x' then 2
  else if isBytes then 0
  else if letter = 'u' then 4
  else if letter = 'U' then 8
  else 0

/-- Whether the escapes in the characters of a string are complete. -/
def escapesFit (isBytes : Bool) : List Char → Bool
  | [] => true
  | '\\' :: letter :: rest =>
      let digits := rest.take (escapeLength isBytes letter)
      let isNamed := !isBytes && letter = 'N'
      digits.length = escapeLength isBytes letter && digits.all isHexDigit &&
        hexValue digits ≤ 0x10FFFF &&
        (!isNamed || (rest.head? = some '{' && rest.contains '}')) &&
        escapesFit isBytes rest
  | _ :: rest => escapesFit isBytes rest

/-- What the letters in front of a string say: whether it is raw and whether it is of bytes. -/
def stringKind? (letters : List Char) : Option (Bool × Bool) :=
  match letters.map Char.toLower with
  | [] => some (false, false)
  | ['u'] => some (false, false)
  | ['r'] => some (true, false)
  | ['b'] => some (false, true)
  | ['b', 'r'] => some (true, true)
  | ['r', 'b'] => some (true, true)
  | _ => none

/-- A string whose letters have been read, at the quote that begins it, and what is left. -/
def takeString? (letters : List Char) : List Char → Option (Token × List Char)
  | quote :: rest => do
      let (isRaw, isBytes) ← stringKind? letters
      let isLong := rest.take 2 = [quote, quote]
      let (chars, after) ← takeQuoted? quote isLong [] (if isLong then rest.drop 2 else rest)
      if isBytes && chars.any (128 ≤ ·.toNat) then none
      else if !isRaw && !escapesFit isBytes chars then none
      else some (.string isBytes, after)
  | [] => none

/-- A name, or a string with letters in front, and what is left. -/
def takeName? (text : List Char) : Option (Token × List Char) :=
  let name := text.takeWhile isNameChar
  let after := text.dropWhile isNameChar
  if after.head?.any fun char => char = '\'' || char = '"' then takeString? name after
  else if name = "True".toList || name = "False".toList || name = "None".toList then
    some (.constant, after)
  else if name = "set".toList then some (.setName, after)
  else none

/-- The token at the front, which is no blank, and what is left. -/
def takeToken? : List Char → Option (Token × List Char)
  | '(' :: rest => some (.openGroup, rest)
  | ')' :: rest => some (.closeGroup, rest)
  | '{' :: rest => some (.openBrace, rest)
  | '}' :: rest => some (.closeBrace, rest)
  | ',' :: rest => some (.comma, rest)
  | ':' :: rest => some (.colon, rest)
  | '+' :: rest => some (.sign, rest)
  | '-' :: rest => some (.sign, rest)
  | '.' :: '.' :: '.' :: rest => some (.constant, rest)
  | '.' :: digit :: rest => if digit.isDigit then takeNumber? ('.' :: digit :: rest) else none
  | char :: rest =>
      if char = '\'' || char = '"' then takeString? [] (char :: rest)
      else if char.isDigit then takeNumber? (char :: rest)
      else if isNameChar char then takeName? (char :: rest)
      else none
  | [] => none

/-- How many brackets may be open at a time. -/
def deepest : Nat :=
  200

/-- How many brackets are open behind a token. -/
def depthBehind (depth : Nat) : Token → Nat
  | .openGroup => depth + 1
  | .openBrace => depth + 1
  | .closeGroup => depth - 1
  | .closeBrace => depth - 1
  | _ => depth

/-- Whether there are blanks, comments and ends of lines only. -/
def isOver (text : List Char) : Bool :=
  (pieces '\n' text).all fun line =>
    match line.dropWhile fun char => char = ' ' || char = '\t' || char = '\x0c' with
    | [] => true
    | char :: _ => char = '#'

/--
The tokens of a text with some brackets open.  Outside of brackets the end of
a line ends the literal.  The first argument bounds the steps; there are no
more of them than characters.
-/
def tokensFrom? : Nat → Nat → List Char → Option (List Token)
  | _, _, [] => some []
  | 0, _, _ :: _ => none
  | steps + 1, depth, char :: rest =>
      if char = ' ' || char = '\t' || char = '\x0c' then tokensFrom? steps depth rest
      else if char = '\n' then
        if depth = 0 then (if isOver rest then some [] else none)
        else tokensFrom? steps depth rest
      else if char = '#' then tokensFrom? steps depth (rest.dropWhile (· ≠ '\n'))
      else if char = '\\' then
        match rest with
        | '\n' :: rest => tokensFrom? steps depth rest
        | _ => none
      else
        match takeToken? (char :: rest) with
        | none => none
        | some (token, rest) =>
            if deepest < depthBehind depth token then none
            else (tokensFrom? steps (depthBehind depth token) rest).map (token :: ·)

/-- What kind of value a literal has. -/
inductive Shape where
  | number (isImaginary : Bool)
  | signed (isImaginary : Bool)
  /-- Another value that cannot be changed. -/
  | fixed
  /-- A value that can be changed. -/
  | changeable
  deriving DecidableEq, Repr

/-- Whether a value may be an element of a set. -/
def Shape.isFixed (shape : Shape) : Bool :=
  shape ≠ .changeable

/-- The shape of a sum. -/
def Shape.sum? : Shape → Shape → Option Shape
  | .number false, .number true => some .fixed
  | .signed false, .number true => some .fixed
  | _, _ => none

/-- The shape of several literals between round brackets; one without a comma is itself. -/
def Shape.group (shapes : List Shape) (hasComma : Bool) : Shape :=
  match shapes, hasComma with
  | [shape], false => shape
  | shapes, _ => if shapes.all Shape.isFixed then .fixed else .changeable

/-- Whether nothing more can come in a list of literals. -/
def endsList : List Token → Bool
  | [] => true
  | .closeGroup :: _ => true
  | .closeBrace :: _ => true
  | _ => false

mutual

/-- A literal without a sign; the first argument bounds the depth of brackets and lists. -/
def takeAtom? : Nat → List Token → Option (Shape × List Token)
  | 0, _ => none
  | fuel + 1, tokens =>
      match tokens with
      | .number isImaginary :: rest => some (.number isImaginary, rest)
      | .string isBytes :: rest =>
          let after := rest.dropWhile (· = .string isBytes)
          if after.head? = some (.string !isBytes) then none else some (.fixed, after)
      | .constant :: rest => some (.fixed, rest)
      | .setName :: .openGroup :: .closeGroup :: rest => some (.changeable, rest)
      | .openGroup :: .closeGroup :: rest => some (.fixed, rest)
      | .openGroup :: rest =>
          match takeList? fuel rest with
          | some (shapes, hasComma, .closeGroup :: after) =>
              some (Shape.group shapes hasComma, after)
          | _ => none
      | .openBrace :: .closeBrace :: rest => some (.changeable, rest)
      | .openBrace :: rest =>
          match takeSum? fuel rest with
          | some (key, .colon :: _) =>
              if key.isFixed then takeEntries? fuel rest else none
          | some _ =>
              match takeList? fuel rest with
              | some (shapes, _, .closeBrace :: after) =>
                  if shapes.all Shape.isFixed then some (.changeable, after) else none
              | _ => none
          | none => none
      | _ => none

/-- A literal that may have a sign. -/
def takeSigned? : Nat → List Token → Option (Shape × List Token)
  | 0, _ => none
  | fuel + 1, .sign :: rest =>
      match takeAtom? fuel rest with
      | some (.number isImaginary, after) => some (.signed isImaginary, after)
      | _ => none
  | fuel + 1, tokens => takeAtom? fuel tokens

/-- A literal that may be a sum. -/
def takeSum? : Nat → List Token → Option (Shape × List Token)
  | 0, _ => none
  | fuel + 1, tokens =>
      match takeSigned? fuel tokens with
      | some (left, .sign :: rest) =>
          match takeAtom? fuel rest with
          | some (right, after) => (left.sum? right).map (·, after)
          | none => none
      | other => other

/-- Literals between commas, and whether there is a comma. -/
def takeList? : Nat → List Token → Option (List Shape × Bool × List Token)
  | 0, _ => none
  | fuel + 1, tokens =>
      match takeSum? fuel tokens with
      | none => none
      | some (shape, .comma :: rest) =>
          if endsList rest then some ([shape], true, rest)
          else
            (takeList? fuel rest).map fun (shapes, _, after) => (shape :: shapes, true, after)
      | some (shape, rest) => some ([shape], false, rest)

/-- The entries of a table up to the brace behind them. -/
def takeEntries? : Nat → List Token → Option (Shape × List Token)
  | 0, _ => none
  | fuel + 1, tokens =>
      match takeSum? fuel tokens with
      | some (key, .colon :: rest) =>
          if !key.isFixed then none
          else
            match takeSum? fuel rest with
            | some (_, .closeBrace :: after) => some (.changeable, after)
            | some (_, .comma :: .closeBrace :: after) => some (.changeable, after)
            | some (_, .comma :: rest) => takeEntries? fuel rest
            | _ => none
      | _ => none

end

/-- How many steps deeper a bracket may lead. -/
def stepsPerToken : Nat :=
  4

/-- Whether a text is a literal, or several with commas between them. -/
def isLiteral (text : List Char) : Bool :=
  if text.contains '\x00' then false
  else
    match tokensFrom? text.length 0 text with
    | none => false
    | some tokens =>
        match takeList? (stepsPerToken * tokens.length + stepsPerToken) tokens with
        | some (_, _, []) => true
        | _ => false

end WinrtLint.Text.Literal
