import WinrtLint.Json.Reader
import WinrtLint.Source.Files

/-!
# Syntax trees as documents

A parser may leave the tree of a source beside it, as a JSON document: a list
of rows, each a list of the parent's number (below zero for the root), the
kind, the field or null, the first byte, the end and the flags.
-/

namespace WinrtLint.Source

/-- The integer that a JSON number is. -/
def integerOf? : Json.Value → Option Int
  | .number (.integer value) => some value
  | _ => none

/-- The natural number that a JSON number is. -/
def naturalOf? (value : Json.Value) : Option Nat :=
  match integerOf? value with
  | some (.ofNat number) => some number
  | _ => none

/-- The field that a JSON value names; null names none. -/
def fieldOf? : Json.Value → Option (Option String)
  | .null => some none
  | .string (.whole name) => some (some name)
  | _ => none

/-- The row of a document's entry. -/
def Row.ofJson? : Json.Value → Option Row
  | .array [parent, .string (.whole kind), field, start, stop, flags] => do
      let parent ← integerOf? parent
      let flags ← naturalOf? flags
      return {
        parent := if parent < 0 then none else some parent.toNat
        kind
        field := ← fieldOf? field
        start := ← naturalOf? start
        stop := ← naturalOf? stop
        isNamed := flags % 2 = 1
        isMissing := flags / 2 % 2 = 1 }
  | _ => none

/-- The rows of a document. -/
def rowsOf? (document : List Char) : Option (List Row) :=
  match Json.read document with
  | .ok (.array entries) => entries.mapM Row.ofJson?
  | _ => none

/-- What the name of a tree's document has behind the name of its source. -/
def treeSuffix : String :=
  ".tree.json"

/-- The tree that lies beside a source file, with the source's bytes. -/
def treeBeside? (files : Files.Node) (path : Files.Path) :
    Option (Bytes × List Row) :=
  match files.read path, files.readText (.ofString (path.text ++ treeSuffix)) with
  | .ok source, .ok document => (rowsOf? document).map fun rows => (source, rows)
  | _, _ => none

/-- The grammar that looks up the trees beside some source files. -/
def grammarBeside (files : Files.Node) (paths : List Files.Path) : Grammar :=
  .ofTrees (paths.filterMap (treeBeside? files))

end WinrtLint.Source
