import WinrtLint.Analysis.Unit
import WinrtLint.Catalog.Document
import WinrtLint.Files.Tree
import WinrtLint.Terminal.Basic
import WinrtLint.Terminal.Markup
import WinrtLint.Terminal.Style
import WinrtLint.Terminal.Table

/-!
# Transcripts

A run writes lines to its output and to its messages, may change files, and
ends with a code or with a failure.  What was written before it ends stays
written.
-/

namespace WinrtLint.Command

/-- What a run has written and the files that it sees. -/
structure Transcript where
  output : List String := []
  messages : List String := []
  files : Files.Node

/-- Lines as they are shown: without the blanks around them, the empty ones left out. -/
def shownLines (lines : List String) : List String :=
  let pieces := lines.flatMap fun line => Text.feedLines line.toList
  ((pieces.map Text.trimSpaces).filter fun piece => !piece.isEmpty).map String.ofList

/-- A failure that a run does not deal with. -/
inductive Failure where
  /-- A file cannot be read or written. -/
  | file (error : Files.FileError)
  /-- A file is not text. -/
  | notText
  /-- A catalog cannot be loaded. -/
  | catalog (failure : CatalogFailure)
  /-- What has to be sorted has no order. -/
  | noOrder
  /-- A unit cannot be analysed. -/
  | scan (error : ScanError)
  deriving DecidableEq, Repr

/-- How a run ends. -/
inductive Ending where
  /-- The run is over. -/
  | code (value : Nat)
  /-- The words of the command line are no correct call. -/
  | misused
  /-- The run failed. -/
  | failed (failure : Failure)
  deriving DecidableEq, Repr

/-- The code that a run ends with. -/
def Ending.exitCode : Ending → Nat
  | .code value => value
  | .misused => 2
  | .failed _ => 1

/-- A step of a run: it continues with a value, or the run ends. -/
abbrev Step (α : Type) : Type :=
  ExceptT Ending (StateM Transcript) α

namespace Step

/-- End the run. -/
def finish {α : Type} (ending : Ending) : Step α :=
  throw ending

/-- Write a line to the output as it is. -/
def write (line : String) : Step Unit :=
  modify fun transcript => { transcript with output := transcript.output ++ [line] }

/-- Write lines to the output as they are. -/
def writeAll (lines : List String) : Step Unit :=
  modify fun transcript => { transcript with output := transcript.output ++ lines }

/-- Write lines to the output without the style sequences in them. -/
def echoAll (lines : List String) : Step Unit :=
  writeAll (lines.map Terminal.Style.drop)

/-- Write lines to the messages as they are. -/
def tellAll (lines : List String) : Step Unit :=
  modify fun transcript => { transcript with messages := transcript.messages ++ lines }

/-- Write warnings to the messages. -/
def warn (terminal : Terminal) (warnings : List Warning) : Step Unit :=
  tellAll (warnings.map terminal.warningLine)

/-- Show a message with markup on the output. -/
def display (terminal : Terminal) (message : String) : Step Unit :=
  writeAll (terminal.printLines [message])

/-- Show a message with markup among the messages. -/
def report (terminal : Terminal) (message : String) : Step Unit :=
  tellAll (terminal.printLines [message])

/-- Report an error and end the run. -/
def refuse {α : Type} (terminal : Terminal) (message : String) : Step α := do
  report terminal ("[bold red]Error:[/bold red] " ++ message)
  finish (.code 1)

/-- The files as they are now. -/
def files : Step Files.Node := do
  return (← get).files

/-- Replace the files. -/
def setFiles (files : Files.Node) : Step Unit :=
  modify fun transcript => { transcript with files }

end Step

end WinrtLint.Command
