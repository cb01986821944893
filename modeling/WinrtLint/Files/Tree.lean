import WinrtLint.Bytes
import WinrtLint.Files.Path
import WinrtLint.Text.Lines
import WinrtLint.Text.Quoted
import WinrtLint.Text.Utf8

/-!
# File trees

The files that a run sees are a tree below the working directory: a node is a
file with its content or a folder with named nodes.  Reading and writing go
along a path and fail where a part is missing, is not a folder or is longer
than a name may be.  A path with a null character is no path of a file at all.
-/

namespace WinrtLint.Files

/-- A file or a folder. -/
inductive Node where
  | file (content : Bytes)
  | folder (entries : List (String × Node))

/-- Why a file operation fails. -/
inductive Fault where
  | notFound
  | notDirectory
  | isDirectory
  /-- A part of the path, or the path itself, has too many bytes. -/
  | nameTooLong
  /-- The path has a null character. -/
  | nullCharacter
  /-- The file says that it is in an encoding that does not exist. -/
  | unknownEncoding
  /-- The file says that it is in an encoding of several bytes for a character. -/
  | multiByteEncoding
  /-- The file says that it is in an encoding in which no bytes at all are text. -/
  | emptyEncoding
  /-- The file says that it is in an encoding in which bytes beyond ASCII are no text. -/
  | strictEncoding
  deriving DecidableEq, Repr

/-- A file operation that failed, and the path that it was given. -/
structure FileError where
  fault : Fault
  path : Path
  deriving DecidableEq, Repr

/-- The wording of a fault. -/
def Fault.message : Fault → String
  | .notFound => "[Errno 2] No such file or directory"
  | .notDirectory => "[Errno 20] Not a directory"
  | .isDirectory => "[Errno 21] Is a directory"
  | .nameTooLong => "[Errno 36] File name too long"
  | .nullCharacter => "embedded null byte"
  | .unknownEncoding => "unknown encoding"
  | .multiByteEncoding => "multi-byte encodings are not supported"
  | .emptyEncoding => "undefined encoding"
  | .strictEncoding => "ordinal not in range(128)"

/-- Whether a fault is not one of the file system, and so does not make a file unreadable. -/
def Fault.isForeign : Fault → Bool
  | .nullCharacter => true
  | .unknownEncoding => true
  | .multiByteEncoding => true
  | .emptyEncoding => true
  | .strictEncoding => true
  | _ => false

/-- The wording of a failed file operation. -/
def FileError.message (error : FileError) : String :=
  if error.fault.isForeign then error.fault.message
  else error.fault.message ++ ": " ++ Text.Quoted.write error.path.text

namespace Node

/-- The working directory before anything is in it. -/
def empty : Node :=
  .folder []

instance : Inhabited Node :=
  ⟨empty⟩

/-- The node of a name among entries. -/
def named? (entries : List (String × Node)) (name : String) : Option Node :=
  entries.lookup name

/-- The most bytes that the name of a file or folder may have. -/
def longestName : Nat :=
  255

/-- The most bytes that the text of a path may have. -/
def longestPath : Nat :=
  4095

/-- Follow parts from a node; `above` holds the folders above it, innermost first. -/
def follow : List Node → Node → List String → Except Fault Node
  | _, node, [] => .ok node
  | _, .file _, _ :: _ => .error .notDirectory
  | above, .folder entries, part :: rest =>
      if longestName < part.utf8ByteSize then .error .nameTooLong
      else if part = ".." then
        match above with
        | [] => .error .notFound
        | parent :: above => follow above parent rest
      else
        match named? entries part with
        | none => .error .notFound
        | some node => follow (.folder entries :: above) node rest

/-- What is wrong with a path whatever the files are.  No file stands at an absolute path, since
only what is below the working directory is modelled. -/
def pathFault? (path : Path) : Option Fault :=
  if path.text.toList.contains '\x00' then some .nullCharacter
  else if longestPath < path.text.utf8ByteSize then some .nameTooLong
  else if path.isAbsolute then
    some (if path.parts.head?.any fun part => longestName < part.utf8ByteSize then
      .nameTooLong else .notFound)
  else none

/-- The node at a path; nothing outside the working directory is seen. -/
def at? (files : Node) (path : Path) : Except Fault Node :=
  match pathFault? path with
  | some fault => .error fault
  | none => follow [] files path.parts

/-- Whether something is at a path. -/
def pathExists (files : Node) (path : Path) : Bool :=
  match files.at? path with
  | .ok _ => true
  | .error _ => false

/-- The first of some paths with a name too long to ask whether something is there. -/
def unaskable? (files : Node) (paths : List Path) : Option FileError :=
  paths.findSome? fun path =>
    match files.at? path with
    | .error .nameTooLong => some ⟨.nameTooLong, path⟩
    | _ => none

/-- Whether a file is at a path. -/
def isFile (files : Node) (path : Path) : Bool :=
  match files.at? path with
  | .ok (.file _) => true
  | _ => false

/-- The content of the file at a path. -/
def read (files : Node) (path : Path) : Except FileError Bytes :=
  match files.at? path with
  | .ok (.file content) => .ok content
  | .ok (.folder _) => .error ⟨.isDirectory, path⟩
  | .error fault => .error ⟨fault, path⟩

mutual

/-- The nodes of a tree with their parts, each before those below it. -/
def nodesBelow : Node → List (List String × Node)
  | .file content => [([], .file content)]
  | .folder entries => ([], .folder entries) :: nodesAmong entries

/-- The nodes at and below named nodes with their parts. -/
def nodesAmong : List (String × Node) → List (List String × Node)
  | [] => []
  | (name, node) :: rest =>
      (nodesBelow node).map (fun (parts, node) => (name :: parts, node)) ++ nodesAmong rest

end

/-- Those of some listed nodes that are files, by their parts. -/
def onlyFiles (listed : List (List String × Node)) : List (List String) :=
  listed.filterMap fun (parts, node) =>
    match node with
    | .file _ => some parts
    | .folder _ => none

/-- The files of a tree by their parts. -/
def filesBelow (node : Node) : List (List String) :=
  onlyFiles node.nodesBelow

/-- The parts of a path after going up where it has two dots. -/
def withoutUps (parts : List String) : List String :=
  (parts.foldl (fun sofar part => if part = ".." then sofar.tail else part :: sofar)
    []).reverse

/-- Replace the node of a name among entries, or append it. -/
def setEntry (entries : List (String × Node)) (name : String) (node : Node) :
    List (String × Node) :=
  match entries with
  | [] => [(name, node)]
  | entry :: rest =>
      if entry.1 = name then (name, node) :: rest
      else entry :: setEntry rest name node

/-- Put a node at the end of a chain of folders, making those that are not there. -/
def put (node : Node) : List String → Node → Node
  | [], _ => node
  | part :: rest, place =>
      let entries :=
        match place with
        | .folder entries => entries
        | .file _ => []
      let inner := (named? entries part).getD empty
      .folder (setEntry entries part (put node rest inner))

/-- Put a node at a path; a folder that is there already stays. -/
def place (files : Node) (path : Path) (node : Node) : Node :=
  match node, follow [] files path.parts with
  | .folder _, .ok (.folder _) => files
  | _, _ => put node path.parts files

/-- The working directory that holds the given nodes. -/
def ofList (nodes : List (Path × Node)) : Node :=
  nodes.foldl (fun files (path, node) => files.place path node) empty

/--
Write the content of a file.  The folder that holds it has to be there, and
what is there under its name must not be a folder; two dots always name one.
-/
def write (files : Node) (path : Path) (content : Bytes) :
    Except FileError Node :=
  match pathFault? path with
  | some fault => .error ⟨fault, path⟩
  | none =>
    match follow [] files path.parts.dropLast with
    | .error fault => .error ⟨fault, path⟩
    | .ok (.file _) => .error ⟨.notDirectory, path⟩
    | .ok (.folder _) =>
        match files.at? path with
        | .ok (.folder _) => .error ⟨.isDirectory, path⟩
        | .error .nameTooLong => .error ⟨.nameTooLong, path⟩
        | _ =>
            if path.parts.getLast? = some ".." then .error ⟨.isDirectory, path⟩
            else .ok (put (.file content) (withoutUps path.parts) files)

end Node

/-- Why the text of a file cannot be had. -/
inductive TextError where
  /-- The file cannot be read. -/
  | file (error : FileError)
  /-- The file's bytes are not UTF-8. -/
  | notText
  deriving DecidableEq, Repr

/-- The characters of a text file with unified line feeds. -/
def textOf? (content : Bytes) : Option (List Char) :=
  (Text.Utf8.decode? content.toList).map Text.unifyLineFeeds

/-- Read a text file. -/
def Node.readText (files : Node) (path : Path) : Except TextError (List Char) :=
  match files.read path with
  | .error error => .error (.file error)
  | .ok content =>
      match textOf? content with
      | none => .error .notText
      | some text => .ok text

/-- The bytes of the byte order mark. -/
def byteOrderMark : List UInt8 :=
  [0xEF, 0xBB, 0xBF]

/--
The characters of a text file that may begin with a byte order mark, which is
dropped.  A file that ends within the mark holds no text.
-/
def markedTextOf? (content : Bytes) : Option (List Char) :=
  if content.toList.isPrefixOf byteOrderMark then some []
  else (textOf? content).map Text.dropByteOrderMark

/-- Read a text file that may begin with a byte order mark. -/
def Node.readMarkedText (files : Node) (path : Path) :
    Except TextError (List Char) :=
  match files.read path with
  | .error error => .error (.file error)
  | .ok content =>
      match markedTextOf? content with
      | none => .error .notText
      | some text => .ok text

end WinrtLint.Files
