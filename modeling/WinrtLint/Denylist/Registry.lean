import WinrtLint.NameSet
import WinrtLint.Denylist.Member

/-!
# The registry of forbidden members

A registry is a set of well-formed keys.  Beside the keys it carries the
members that they name and the set of the types that own one.
-/

namespace WinrtLint

/-- An immutable denylist. -/
structure Registry where
  /-- The keys that were accepted. -/
  keys : NameSet
  /-- The members that the keys name, in the order of the keys. -/
  members : List Member
  /-- Every key is well formed and names its member. -/
  parsed : keys.toList.mapM Member.parse = .ok members
  /-- The types that own a member. -/
  types : NameSet
  /-- Exactly the owners of the members. -/
  types_eq : types = NameSet.ofList (members.map (·.owner))

namespace Registry

/-- The registry of a set of keys, provided that each of them is well formed. -/
def ofKeys (keys : NameSet) : Except EntryError Registry :=
  match accepted : keys.toList.mapM Member.parse with
  | .ok members => .ok ⟨keys, members, accepted, _, rfl⟩
  | .error fault => .error fault

/-- The registry of a list of entries; repetitions collapse. -/
def ofEntries (entries : List String) : Except EntryError Registry :=
  ofKeys (NameSet.ofList entries)

/-- The registry of the keys of given members. -/
def ofMembers (members : List Member) : Except EntryError Registry :=
  ofEntries (members.map Member.key)

/-- The registry without entries. -/
def empty : Registry :=
  ⟨∅, [], rfl, _, rfl⟩

instance : Inhabited Registry :=
  ⟨empty⟩

/-- Whether a key is listed. -/
def contains (registry : Registry) (key : String) : Bool :=
  registry.keys.contains key

/-- Whether some entry belongs to a type. -/
def containsType (registry : Registry) (owner : String) : Bool :=
  registry.types.contains owner

/-- A registry with the entries of another and more. -/
def merge (registry : Registry) (entries : List String) :
    Except EntryError Registry :=
  ofKeys (registry.keys.insertAll entries)

/-- How many entries there are. -/
def size (registry : Registry) : Nat :=
  registry.keys.size

/-- The keys in increasing order. -/
def toList (registry : Registry) : List String :=
  registry.keys.toList

end Registry

end WinrtLint
