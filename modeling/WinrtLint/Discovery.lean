import WinrtLint.Files.Tree

/-!
# Finding sources

C# files are found at the given paths and below the given folders.  Folders
that hold build output, packages or the data of a version control system are
passed over.
-/

namespace WinrtLint.Discovery

/-- Names of files and folders that are passed over below a given folder. -/
def excludedNames : List String :=
  ["bin", "obj", ".git", ".vs", "packages", "node_modules"]

/--
Whether a path is that of a C# file.  Only the ASCII letters have lower-case
forms that occur in the suffix, so capitals beyond ASCII do not matter.
-/
def isSource (path : Files.Path) : Bool :=
  Text.Ascii.lower path.suffix = ".cs"

/-- Whether a file below a folder is passed over, by its parts. -/
def isExcluded (parts : List String) : Bool :=
  parts.any fun part => excludedNames.contains part

/-- The C# files at or below a path. -/
def sourcesAt (files : Files.Node) (path : Files.Path) : List Files.Path :=
  match files.at? path with
  | .error _ => []
  | .ok (.file _) => if isSource path then [path] else []
  | .ok (.folder entries) =>
      ((Files.Node.onlyFiles (Files.Node.nodesAmong entries)).filter fun parts =>
        isSource (path.below parts) && !isExcluded parts).map path.below

/-- The C# files at or below some paths, each once and sorted by their components. -/
def discover (files : Files.Node) (paths : List Files.Path) : List Files.Path :=
  ((paths.flatMap (sourcesAt files)).eraseDups).mergeSort Files.Path.notLater

/-- Whether the search has to ask for a node at a path: folders are listed, and what is named like
a C# file may be something else. -/
def isAskedFor (path : Files.Path) : Files.Node → Bool
  | .folder _ => true
  | .file _ => isSource path

/-- The first path below a folder that the search asks for and that is too long. -/
def tooLong? (files : Files.Node) (path : Files.Path) :
    Option Files.FileError :=
  match files.at? path with
  | .ok (.folder entries) =>
      (Files.Node.nodesAmong entries).findSome? fun (parts, node) =>
        if isAskedFor (path.below parts) node &&
            Files.Node.longestPath < (path.below parts).text.utf8ByteSize then
          some ⟨.nameTooLong, path.below parts⟩
        else none
  | _ => none

/-- The C# files at or below some paths, provided that no path on the way is too long. -/
def discover? (files : Files.Node) (paths : List Files.Path) :
    Except Files.FileError (List Files.Path) :=
  match (files.unaskable? paths).or (paths.findSome? (tooLong? files)) with
  | some error => .error error
  | none => .ok (discover files paths)

end WinrtLint.Discovery
