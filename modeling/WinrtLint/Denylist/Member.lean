import WinrtLint.Text.Blank

/-!
# Forbidden members

A denylist entry names a member of a type by its key `Type.Member`.  The
constructors of a type share the reserved member name `.ctor`, so their key is
`Type..ctor`.
-/

namespace WinrtLint

/-- The two shapes of members that a denylist holds. -/
inductive MemberKind where
  | constructor
  | staticMethod
  deriving DecidableEq, Repr

/-- The name of a kind of member. -/
def MemberKind.name : MemberKind → String
  | .constructor => "constructor"
  | .staticMethod => "static_method"

/-- The member name of constructors; no method can carry it. -/
def constructorName : String :=
  ".ctor"

/-- The key of a member of a type. -/
def memberKey (owner name : String) : String :=
  owner ++ "." ++ name

/-- One denylist entry. -/
structure Member where
  /-- Qualified name of the type that owns the member. -/
  owner : String
  /-- The member's own name. -/
  name : String
  /-- What the member is. -/
  kind : MemberKind := .staticMethod
  deriving DecidableEq, Repr

/-- Why a text is not the key of a member. -/
inductive EntryError where
  /-- A constructor key without a type. -/
  | noType (key : String)
  /-- No dot, or nothing on one side of the last dot. -/
  | notTypeMember (key : String)
  deriving DecidableEq, Repr

/-- The wording of a refused entry. -/
def EntryError.message : EntryError → String
  | .noType key => "denylist entry has no type: '" ++ key ++ "'"
  | .notTypeMember key => "denylist entry is not 'Type.Member': '" ++ key ++ "'"

namespace Member

/-- The key under which a member is listed. -/
def key (member : Member) : String :=
  memberKey member.owner member.name

/-- Two entries are the same when owner and name agree; the kind does not count. -/
def same (left right : Member) : Bool :=
  left.owner = right.owner && left.name = right.name

/-- The ending of a constructor's key. -/
def constructorEnding : List Char :=
  ['.', '.', 'c', 't', 'o', 'r']

/--
Read a key.  One that ends like a constructor's key is a constructor; any
other is cut at its last dot, and both sides must be there.
-/
def parse (key : String) : Except EntryError Member :=
  match Text.beforeEnd? constructorEnding key.toList with
  | some [] => .error (.noType key)
  | some owner => .ok ⟨String.ofList owner, constructorName, .constructor⟩
  | none =>
      match Text.cutLast? '.' key.toList with
      | none => .error (.notTypeMember key)
      | some (owner, name) =>
          if owner.isEmpty || name.isEmpty then .error (.notTypeMember key)
          else .ok ⟨String.ofList owner, String.ofList name, .staticMethod⟩

end Member

end WinrtLint
