import WinrtLint.Terminal.Emoji.Table
import WinrtLint.Text.LowerCase

/-!
# Emoji codes

A name between two colons, without blanks, is the code of an emoji.  It may
end in a variant, which asks for the emoji as a picture or as text.  A name
that is not known stays as it is, with its two colons.
-/

namespace WinrtLint.Terminal.Emoji

/-- The number that hexadecimal digits in lower case stand for. -/
def codePoint (digits : List Char) : Nat :=
  digits.foldl (fun sofar digit =>
    16 * sofar + (if digit.isDigit then digit.toNat - 48 else digit.toNat - 87)) 0

/-- The name and the characters of an entry of the table. -/
def entryOf? (entry : List Char) : Option (String × List Char) :=
  match Text.cutFirst '=' entry with
  | (name, some codes) =>
      some (String.ofList name,
        (Text.pieces '+' codes).map fun digits => Char.ofNat (codePoint digits))
  | _ => none

/-- The names of emoji and their characters. -/
def entries : List (String × List Char) :=
  table.flatMap fun line => (Text.pieces ' ' line.toList).filterMap entryOf?

/-- The variants of a name's end, and the characters that ask for them. -/
def variants : List (String × Char) :=
  [("-emoji", '\uFE0F'), ("-text", '\uFE0E')]

/-- A name without its variant, and the character that asks for the variant. -/
def splitVariant (name : List Char) : List Char × List Char :=
  let found := variants.findSome? fun (ending, mark) =>
    (Text.beforeEnd? ending.toList name).map fun base => (base, [mark])
  found.getD (name, [])

/-- What a name between two colons shows. -/
def shown (name : List Char) : List Char :=
  let (base, variant) := splitVariant name
  match entries.lookup (Text.lower (String.ofList base)) with
  | some emoji => emoji ++ variant
  | none => ':' :: name ++ [':']

/--
Replace the codes in a text.  Behind a colon that may open a code, `name?`
holds the characters since then, last first.
-/
def replaceFrom (name? : Option (List Char)) : List Char → List Char
  | [] =>
      match name? with
      | none => []
      | some name => ':' :: name.reverse
  | char :: rest =>
      match name? with
      | none =>
          if char = ':' then replaceFrom (some []) rest
          else char :: replaceFrom none rest
      | some name =>
          if char = ':' then shown name.reverse ++ replaceFrom none rest
          else if Text.isBlank char then ':' :: name.reverse ++ char :: replaceFrom none rest
          else replaceFrom (some (char :: name)) rest

/-- Replace the codes of emoji in a text. -/
def replace (text : List Char) : List Char :=
  replaceFrom none text

end WinrtLint.Terminal.Emoji
