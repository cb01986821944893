import WinrtLint.Dictionary
import WinrtLint.Denylist.Registry
import WinrtLint.Json.Shown
import WinrtLint.Symbol

/-!
# Type catalogs

A catalog lists the library types to which names in source code can bind.  It
comes from extracted metadata, from a file, or is inferred from a registry: an
entry's type is then taken for a sealed class, and its entries other than the
constructors for static methods.

A file may give other values in place of names and flags.  They count by what
they show or by whether they are empty, and are kept as they are beside the
type that they stand for.
-/

namespace WinrtLint

/-- A type to which names can bind. -/
structure CatalogType where
  /-- The namespace, empty at the top. -/
  space : String
  name : String
  isSealed : Bool := true
  isValueType : Bool := false
  staticMethods : NameSet := ∅
  constructible : Bool := false
  deriving DecidableEq

namespace CatalogType

/-- The name under which a catalog lists the type. -/
def qualifiedName (entry : CatalogType) : String :=
  qualify entry.space entry.name

/-- The type as a symbol. -/
def symbol (entry : CatalogType) : TypeSymbol where
  space := entry.space
  name := entry.name
  isSealed := entry.isSealed
  isValueType := entry.isValueType

/-- Cut a qualified name at its last dot into namespace and name. -/
def splitQualified (qualified : String) : String × String :=
  match Text.cutLast? '.' qualified.toList with
  | some (space, name) => (String.ofList space, String.ofList name)
  | none => ("", qualified)

/-- The type with one more member of a registry. -/
def withMember (entry : CatalogType) (member : Member) : CatalogType :=
  if member.name = constructorName then { entry with constructible := true }
  else { entry with staticMethods := entry.staticMethods.insert member.name }

end CatalogType

/-- The values that a document gives for a type. -/
structure WrittenType where
  space : Json.Value
  name : Json.Value
  isSealed : Json.Value
  isValueType : Json.Value
  /-- The static methods, no two of them equal. -/
  staticMethods : List Json.Value
  constructible : Json.Value

namespace WrittenType

/-- Whether the values are texts, flags and names throughout. -/
def isPlain : WrittenType → Bool
  | ⟨.string (.whole _), .string (.whole _), .bool _, .bool _, methods, .bool _⟩ =>
      methods.all fun
        | .string (.whole _) => true
        | _ => false
  | _ => false

/-- The names among the static methods. -/
def methodNames (written : WrittenType) : List String :=
  written.staticMethods.filterMap fun
    | .string (.whole name) => some name
    | _ => none

/-- The type that the values stand for. -/
def type (written : WrittenType) : CatalogType where
  space := if written.space.isTruthy then written.space.shown.toString else ""
  name := written.name.shown.toString
  isSealed := written.isSealed.isTruthy
  isValueType := written.isValueType.isTruthy
  staticMethods := NameSet.ofList written.methodNames
  constructible := written.constructible.isTruthy

/-- The key of the values: the qualified name, or the name as it is without a namespace. -/
def key? (written : WrittenType) : Option Json.Key :=
  if written.space.isTruthy then
    some (.text (written.space.shown ++ .whole "." ++ written.name.shown))
  else written.name.key?

end WrittenType

/-- A type as a catalog lists it. -/
structure CatalogEntry where
  type : CatalogType
  /-- The values of the document that the type comes from, if they are not plain. -/
  written : Option WrittenType := none

/-- The key under which an entry is listed. -/
def CatalogEntry.key (entry : CatalogEntry) : Json.Key :=
  (entry.written.bind WrittenType.key?).getD (.text (.whole entry.type.qualifiedName))

/-- Types by qualified name, in order of first insertion. -/
structure Catalog where
  types : Dictionary Json.Key CatalogEntry
  /-- Each entry is listed under its own key. -/
  keyed : ∀ entry ∈ types.entries, entry.1 = entry.2.key

namespace Catalog

/-- The catalog without types. -/
def empty : Catalog :=
  ⟨.empty, by simp [Dictionary.empty]⟩

instance : Inhabited Catalog :=
  ⟨empty⟩

/-- List an entry under its key, in place of one of the same key. -/
def addEntry (catalog : Catalog) (entry : CatalogEntry) : Catalog where
  types := catalog.types.insert entry.key entry
  keyed := by
    intro listed member
    cases Dictionary.mem_putEntry member with
    | inl new => simp [new]
    | inr old => exact catalog.keyed listed old

/-- List a type under its qualified name, in place of one of the same name. -/
def add (catalog : Catalog) (type : CatalogType) : Catalog :=
  catalog.addEntry ⟨type, none⟩

/-- The catalog of a list of entries. -/
def ofEntries (entries : List CatalogEntry) : Catalog :=
  entries.foldl addEntry empty

/-- List types one after another. -/
def addAll (catalog : Catalog) (entries : List CatalogType) : Catalog :=
  entries.foldl add catalog

/-- The catalog of a list of types. -/
def ofList (entries : List CatalogType) : Catalog :=
  empty.addAll entries

/-- The entry listed under a qualified name. -/
def entry? (catalog : Catalog) (qualified : String) : Option CatalogEntry :=
  catalog.types.get? (.text (.whole qualified))

/-- The type listed under a qualified name. -/
def get? (catalog : Catalog) (qualified : String) : Option CatalogType :=
  (catalog.entry? qualified).map (·.type)

/-- Whether a qualified name is listed. -/
def contains (catalog : Catalog) (qualified : String) : Bool :=
  catalog.types.contains (.text (.whole qualified))

/-- How many types are listed. -/
def size (catalog : Catalog) : Nat :=
  catalog.types.size

/-- The entries in order of first insertion. -/
def entries (catalog : Catalog) : List CatalogEntry :=
  catalog.types.values

/-- The types in order of first insertion. -/
def toList (catalog : Catalog) : List CatalogType :=
  catalog.entries.map (·.type)

/-- The entries sorted by key. -/
def sorted (catalog : Catalog) : Except Json.NoOrder (List CatalogEntry) :=
  Json.sortByKey CatalogEntry.key catalog.entries

/--
Record one member of a registry with its owner.  An owner that is not listed
is entered anew under the name that its two halves make up again.
-/
def addMember (catalog : Catalog) (member : Member) : Catalog :=
  let entry :=
    match catalog.get? member.owner with
    | some entry => entry
    | none =>
        let (space, name) := CatalogType.splitQualified member.owner
        { space, name }
  catalog.add (entry.withMember member)

/-- The catalog inferred from a registry. -/
def ofRegistry (registry : Registry) : Catalog :=
  registry.members.foldl addMember empty

end Catalog

end WinrtLint
