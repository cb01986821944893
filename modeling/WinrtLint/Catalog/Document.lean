import WinrtLint.Catalog.Basic
import WinrtLint.Files.Tree
import WinrtLint.Json.Reader
import WinrtLint.Json.Writer

/-!
# Catalogs as documents

A catalog is kept in a JSON document: an object whose field `types` lists the
types, sorted by qualified name.  Reading is lenient about what else the
document holds, about the order of types and about values that are neither
texts nor flags; writing gives such values back.
-/

namespace WinrtLint

/-- Why an entry of a document is no type. -/
inductive EntryFault where
  /-- A field that has to be there is not. -/
  | missingField (name : String)
  /-- The entry or one of its fields has the wrong shape. -/
  | wrongShape
  deriving DecidableEq, Repr

/-- Why a file is no catalog. -/
inductive CatalogError where
  /-- The file cannot be read. -/
  | unreadable (error : Files.FileError)
  /-- The text is not JSON. -/
  | notJson (path : Files.Path)
  /-- The document has no list of types. -/
  | noTypes (path : Files.Path)
  /-- An entry of the list is no type. -/
  | malformedEntry (path : Files.Path) (fault : EntryFault)
  deriving DecidableEq, Repr

/-- How loading a catalog fails. -/
inductive CatalogFailure where
  /-- The file is no catalog. -/
  | refused (error : CatalogError)
  /-- The file's bytes are not UTF-8, so that there is no document to judge. -/
  | notText
  /-- The path has a null character. -/
  | nullInPath (error : Files.FileError)
  /-- An integer in the document has too many digits. -/
  | integerTooLong (digits : Nat)
  /-- The document is nested too deep. -/
  | nestedTooDeep
  deriving DecidableEq, Repr

/-- The wording of a refused catalog. -/
def CatalogError.message : CatalogError → String
  | .unreadable error =>
      "cannot read catalog " ++ error.path.text ++ ": " ++ error.message
  | .notJson path => "catalog " ++ path.text ++ " is not valid JSON"
  | .noTypes path => "catalog " ++ path.text ++ " has no 'types' list"
  | .malformedEntry path fault =>
      "malformed catalog entry in " ++ path.text ++
        match fault with
        | .missingField name => ": '" ++ name ++ "'"
        | .wrongShape => ""

/-- The wording of a catalog that cannot be loaded. -/
def CatalogFailure.message : CatalogFailure → String
  | .refused error => error.message
  | .notText => "the catalog is not UTF-8"
  | .nullInPath error => error.message
  | .integerTooLong digits =>
      "Exceeds the limit (" ++ toString Json.longestInteger ++
        " digits) for integer string conversion: value has " ++ toString digits ++
        " digits; use sys.set_int_max_str_digits() to increase the limit"
  | .nestedTooDeep => "the catalog is nested too deep"

/-- The fields of a document's entry. -/
def fieldsOf
    (space name isSealed isValueType : Json.Value)
    (methods : List Json.Value)
    (constructible : Json.Value) :
    List (Json.LooseText × Json.Value) :=
  [(.whole "namespace", space), (.whole "name", name), (.whole "is_sealed", isSealed),
    (.whole "is_value_type", isValueType), (.whole "static_methods", .array methods),
    (.whole "constructible", constructible)]

/-- A type as an entry of a document. -/
def CatalogType.toJson (type : CatalogType) : Json.Value :=
  .object
    (fieldsOf (.text type.space) (.text type.name) (.bool type.isSealed)
      (.bool type.isValueType) (type.staticMethods.toList.map .text)
      (.bool type.constructible))

namespace WrittenType

/-- The static methods in order. -/
def sortedMethods (written : WrittenType) :
    Except Json.NoOrder (List Json.Value) :=
  Json.sortByKey (fun value => value.key?.getD .null) written.staticMethods

/-- The values of a type as an entry of a document. -/
def toJson (written : WrittenType) : Except Json.NoOrder Json.Value := do
  let methods ← written.sortedMethods
  return .object
    (fieldsOf written.space written.name written.isSealed written.isValueType methods
      written.constructible)

/--
The static methods that a field lists: of a text its characters, of an object
its names.  What has parts is no method.
-/
def methodsOf : Json.Value → Except EntryFault (List Json.Value)
  | .array items =>
      if items.all fun item => item.key?.isSome then
        .ok (items.eraseDupsBy fun left right => left.key? = right.key?)
      else .error .wrongShape
  | .string text =>
      .ok (text.points.eraseDups.map fun point => .string (.ofPoints [point]))
  | .object fields => .ok (fields.map fun field => .string field.1)
  | _ => .error .wrongShape

/-- A field of an entry that has to be there. -/
def needed (fields : List (Json.LooseText × Json.Value)) (name : String) :
    Except EntryFault Json.Value :=
  match Json.Value.field? fields name with
  | some value => .ok value
  | none => .error (.missingField name)

/-- A flag of an entry, or another value if it is not there. -/
def flag
    (fields : List (Json.LooseText × Json.Value))
    (name : String)
    (default : Bool) :
    Json.Value :=
  (Json.Value.field? fields name).getD (.bool default)

/-- The values that an entry of a document gives for a type. -/
def ofJson : Json.Value → Except EntryFault WrittenType
  | .object fields => do
      let space ← needed fields "namespace"
      let name ← needed fields "name"
      let staticMethods ←
        methodsOf ((Json.Value.field? fields "static_methods").getD (.array []))
      return {
        space, name, staticMethods
        isSealed := flag fields "is_sealed" true
        isValueType := flag fields "is_value_type" false
        constructible := flag fields "constructible" false }
  | _ => .error .wrongShape

end WrittenType

namespace CatalogEntry

/-- An entry as one of a document. -/
def toJson (entry : CatalogEntry) : Except Json.NoOrder Json.Value :=
  match entry.written with
  | none => .ok entry.type.toJson
  | some written => written.toJson

/-- The entry of a document's entry, which has to have a key. -/
def ofJson (value : Json.Value) : Except EntryFault CatalogEntry := do
  let written ← WrittenType.ofJson value
  if written.key?.isNone then throw .wrongShape
  return ⟨written.type, if written.isPlain then none else some written⟩

end CatalogEntry

/-- How saving a catalog fails. -/
inductive SaveFailure where
  /-- Its types or the methods of one of them have no order. -/
  | noOrder
  /-- The file cannot be written. -/
  | file (error : Files.FileError)
  deriving DecidableEq, Repr

namespace Catalog

/-- A catalog as a document. -/
def toJson (catalog : Catalog) : Except Json.NoOrder Json.Value := do
  let entries ← catalog.sorted
  return .object [(.whole "types", .array (← entries.mapM CatalogEntry.toJson))]

/-- The text of a catalog's document. -/
def document (catalog : Catalog) : Except Json.NoOrder String :=
  catalog.toJson.map Json.write

/-- Write a catalog's document to a file. -/
def save (catalog : Catalog) (files : Files.Node) (path : Files.Path) :
    Except SaveFailure Files.Node :=
  match catalog.document with
  | .error _ => .error .noOrder
  | .ok document =>
      (files.write path (Text.Utf8.encode document).toArray).mapError .file

/-- The catalog of a document that a file holds. -/
def ofJson (path : Files.Path) : Json.Value → Except CatalogError Catalog
  | .object fields =>
      match Json.Value.field? fields "types" with
      | some (.array entries) =>
          match entries.mapM CatalogEntry.ofJson with
          | .error fault => .error (.malformedEntry path fault)
          | .ok entries => .ok (.ofEntries entries)
      | _ => .error (.noTypes path)
  | _ => .error (.noTypes path)

/-- The catalog of the text that a file holds. -/
def ofDocument (path : Files.Path) (text : List Char) :
    Except CatalogFailure Catalog :=
  match Json.read text with
  | .error .malformed => .error (.refused (.notJson path))
  | .error (.integerTooLong digits) => .error (.integerTooLong digits)
  | .error .nestedTooDeep => .error .nestedTooDeep
  | .ok value => (ofJson path value).mapError .refused

/-- Read a catalog from a file. -/
def load (files : Files.Node) (path : Files.Path) :
    Except CatalogFailure Catalog :=
  match files.readText path with
  | .error (.file error) =>
      if error.fault = .nullCharacter then .error (.nullInPath error)
      else .error (.refused (.unreadable error))
  | .error .notText => .error .notText
  | .ok text => ofDocument path text

end Catalog

end WinrtLint
