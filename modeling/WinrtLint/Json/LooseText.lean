/-!
# Texts of documents

A document may name half of a surrogate pair without the other half.  No
string holds such a half, so the texts of documents are either strings or the
code points of a text with a half that stands alone.
-/

namespace WinrtLint.Json

/-- Whether a code point is the first half of a surrogate pair. -/
def isHighHalf (point : Nat) : Bool :=
  0xD800 ≤ point && point ≤ 0xDBFF

/-- Whether a code point is the second half of a surrogate pair. -/
def isLowHalf (point : Nat) : Bool :=
  0xDC00 ≤ point && point ≤ 0xDFFF

/-- Whether a code point is half of a surrogate pair. -/
def isHalf (point : Nat) : Bool :=
  isHighHalf point || isLowHalf point

/-- A text in which half of a surrogate pair may stand alone. -/
inductive LooseText where
  /-- A text without such a half. -/
  | whole (text : String)
  /-- The code points of a text with such a half. -/
  | halved (points : List Nat)
  deriving DecidableEq, Repr

namespace LooseText

/-- The text of some code points. -/
def ofPoints (points : List Nat) : LooseText :=
  if points.any isHalf then .halved points
  else .whole (String.ofList (points.map Char.ofNat))

/-- The code points of a text. -/
def points : LooseText → List Nat
  | .whole text => text.toList.map Char.toNat
  | .halved points => points

/-- Whether a text has no characters. -/
def isEmpty : LooseText → Bool
  | .whole text => text = ""
  | .halved points => points.isEmpty

/-- A text as a string, in which the replacement character stands for every half. -/
def toString : LooseText → String
  | .whole text => text
  | .halved points =>
      String.ofList (points.map fun point =>
        if isHalf point then '\uFFFD' else Char.ofNat point)

/-- One text behind another. -/
def append : LooseText → LooseText → LooseText
  | .whole left, .whole right => .whole (left ++ right)
  | left, right => .ofPoints (left.points ++ right.points)

instance : Append LooseText :=
  ⟨append⟩

/-- Whether a text does not come after another one; texts are ordered by code points. -/
def notAfter : LooseText → LooseText → Bool
  | .whole left, .whole right => left ≤ right
  | left, right => !decide (right.points < left.points)

end LooseText

end WinrtLint.Json
