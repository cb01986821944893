import WinrtLint.Files.Tree
import WinrtLint.Source.RowTable
import WinrtLint.Source.Scan
import WinrtLint.Warning

/-!
# Scanning files

Each file is a unit of its own.  Files may be scanned in any order, several at
once; the findings come out in the order in which the files are listed.
-/

namespace WinrtLint.Source

/-- A parser: the table of rows of a source's syntax tree. -/
abbrev Grammar : Type :=
  Bytes → List Row

/-- The grammar that looks up the trees of some sources. -/
def Grammar.ofTrees (trees : List (Bytes × List Row)) : Grammar :=
  fun source => (trees.lookup source).getD []

namespace Scanner

/-- The part of the program that warns about sources. -/
def warningSource : String :=
  "CSharpSourceScanner"

/-- Why the scan of a file fails. -/
inductive FileScanError where
  /-- The path has a null character. -/
  | path (error : Files.FileError)
  /-- The unit cannot be analysed. -/
  | unit (error : ScanError)
  deriving DecidableEq, Repr

/-- What the scan of one file yields. -/
structure FileScan where
  path : Files.Path
  warnings : List Warning
  findings : List Diagnostic

/-- The findings in a source text. -/
def scanSource
    (scanner : Scanner)
    (grammar : Grammar)
    (path : String)
    (source : Bytes) :
    Except ScanError (List Diagnostic) :=
  match Tree.ofRows? source (grammar source) with
  | none => .ok []
  | some root => scanner.scan path root

/-- Scan one file; a file that cannot be read yields a warning and no findings. -/
def scanFile
    (scanner : Scanner)
    (grammar : Grammar)
    (files : Files.Node)
    (path : Files.Path) :
    Except FileScanError FileScan :=
  match files.read path with
  | .error error =>
      if error.fault = .nullCharacter then .error (.path error)
      else .ok ⟨path, [⟨warningSource, "cannot read " ++ path.text ++ ", skipping"⟩], []⟩
  | .ok source =>
      match scanner.scanSource grammar path.text source with
      | .error error => .error (.unit error)
      | .ok findings => .ok ⟨path, [], findings⟩

/-- The findings of the last scan of a file among finished scans. -/
def findingsOf (finished : List FileScan) (path : Files.Path) :
    List Diagnostic :=
  match finished.reverse.find? fun scan => scan.path = path with
  | some scan => scan.findings
  | none => []

/-- What the scan of several files yields. -/
structure FilesScan where
  warnings : List Warning
  findings : List Diagnostic

/-- Put finished scans, in the order in which they finished, into the order of a list. -/
def arrange (finished : List FileScan) (paths : List Files.Path) :
    FilesScan where
  warnings := finished.flatMap (·.warnings)
  findings := paths.flatMap (findingsOf finished)

/-- Scan files that finish in a given order. -/
def scanFilesIn
    (order : List Files.Path)
    (scanner : Scanner)
    (grammar : Grammar)
    (files : Files.Node)
    (paths : List Files.Path) :
    Except FileScanError FilesScan := do
  let finished ← order.mapM (scanner.scanFile grammar files)
  return arrange finished paths

/-- Scan files one after another. -/
def scanFiles
    (scanner : Scanner)
    (grammar : Grammar)
    (files : Files.Node)
    (paths : List Files.Path) :
    Except FileScanError FilesScan :=
  scanFilesIn paths scanner grammar files paths

end Scanner

end WinrtLint.Source
