import WinrtLint.Dictionary
import WinrtLint.Json.LooseText
import WinrtLint.Json.Number

/-!
# JSON values

An object lists its names in the order in which they first came in; the last
value of a name counts.  Values without parts can be told apart, put in order
and used as keys.
-/

namespace WinrtLint.Json

/-- A JSON value. -/
inductive Value where
  | null
  | bool (value : Bool)
  | number (value : Number)
  | string (value : LooseText)
  | array (items : List Value)
  | object (fields : List (LooseText × Value))
  deriving Inhabited

namespace Value

/-- A string as a value. -/
def text (value : String) : Value :=
  .string (.whole value)

/-- The value of a name in an object. -/
def field? (fields : List (LooseText × Value)) (name : String) : Option Value :=
  fields.lookup (.whole name)

/-- Whether a value counts as true: it is neither empty, zero, false nor null. -/
def isTruthy : Value → Bool
  | .null => false
  | .bool value => value
  | .number value => !value.isZero
  | .string value => !value.isEmpty
  | .array items => !items.isEmpty
  | .object fields => !fields.isEmpty

end Value

/-- A value without parts, as far as it can be told apart from others. -/
inductive Key where
  | null
  /-- A number, or a truth value as one or zero. -/
  | number (value : Number)
  | text (value : LooseText)
  deriving DecidableEq, Repr

/-- The key of a value, which arrays and objects do not have. -/
def Value.key? : Value → Option Key
  | .null => some .null
  | .bool value => some (.number (.integer (if value then 1 else 0)))
  | .number value => some (.number value.canonical)
  | .string value => some (.text value)
  | .array _ => none
  | .object _ => none

namespace Key

/-- Whether a key is text. -/
def isText : Key → Bool
  | .text _ => true
  | _ => false

/-- Whether a key is a number. -/
def isNumber : Key → Bool
  | .number _ => true
  | _ => false

/-- Whether keys have an order: there is one at most, or they are of one kind that has. -/
def haveOrder (keys : List Key) : Bool :=
  keys.length ≤ 1 || keys.all isText || keys.all isNumber

/-- Whether a key does not come after another one of its kind. -/
def notAfter : Key → Key → Bool
  | .text left, .text right => left.notAfter right
  | .number left, .number right => !right.less left
  | _, _ => true

end Key

/-- Keys of different kinds have no order. -/
inductive NoOrder where
  | noOrder
  deriving DecidableEq, Repr

/-- Sort items by their keys. -/
def sortByKey {Item : Type} (key : Item → Key) (items : List Item) :
    Except NoOrder (List Item) :=
  if Key.haveOrder (items.map key) then
    .ok (items.mergeSort fun left right => (key left).notAfter (key right))
  else .error .noOrder

end WinrtLint.Json
