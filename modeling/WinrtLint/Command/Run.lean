import WinrtLint.Catalog.Document
import WinrtLint.Command.Arguments
import WinrtLint.Command.Transcript
import WinrtLint.Denylist.Curated
import WinrtLint.Discovery
import WinrtLint.Sdk.Manifest
import WinrtLint.Settings.Basic
import WinrtLint.Source.Files

/-!
# Runs of the program

A run carries out one request.  It sees the environment, the files below the
working directory, a grammar for sources and the terminal; all else follows.
-/

namespace WinrtLint.Command

open Terminal.Markup (escape)

/-- The version of the program. -/
def programVersion : String :=
  "1.0.0"

/-- What a run finds when it begins. -/
structure Surroundings where
  environment : Settings.Environment
  files : Files.Node
  /-- The text of the working directory's path. -/
  workingDirectory : String
  grammar : Source.Grammar
  terminal : Terminal := .unicode

/-- The settings of a run. -/
def settings (surroundings : Surroundings) : Step Settings := do
  let files ← Step.files
  let environment := surroundings.environment
  Step.tellAll (Settings.fileRemarks files Settings.defaultEnvFile environment)
  match Settings.load files Settings.defaultEnvFile environment with
  | (_, .ok settings) => return settings
  | (_, .error refusal) =>
      Step.report surroundings.terminal
        ("[bold red]Configuration error:[/bold red] " ++ escape refusal.message)
      Step.finish (.code 1)

/-- The entries of denylist files in order. -/
def extraEntries (terminal : Terminal) : List Files.Path → Step (List String)
  | [] => return []
  | path :: rest => do
      match Denylist.load (← Step.files) path with
      | .ok entries => return entries ++ (← extraEntries terminal rest)
      | .error .notText => Step.finish (.failed .notText)
      | .error (.file error) =>
          Step.refuse terminal
            ("cannot read denylist " ++ escape path.text ++ ": " ++ escape error.message)

/-- The curated registry with the entries of denylist files. -/
def registry (terminal : Terminal) (denylists : List Files.Path) :
    Step Registry := do
  match ← extraEntries terminal denylists with
  | [] => return Registry.curated
  | entries =>
      match Registry.curated.merge entries with
      | .ok registry => return registry
      | .error fault => Step.refuse terminal (escape fault.message)

/-- Whether something is at a path; a name that is too long ends the run. -/
def isThere (path : Files.Path) : Step Bool := do
  let files ← Step.files
  match files.unaskable? [path] with
  | some error => Step.finish (.failed (.file error))
  | none => return files.pathExists path

/-- The types of the kits, and how many archives were skipped. -/
def kitTypes (terminal : Terminal) (settings : Settings) :
    Step (List RetainedType × Nat) := do
  if !(← isThere settings.kitsRoot) then
    Step.refuse terminal
      ("Windows Kits root does not exist: " ++ escape settings.kitsRoot.text)
  let (yielded, extractor) :=
    Sdk.readBuild {} (← Step.files) settings.kitsRoot settings.build
  Step.warn terminal yielded.warnings
  match yielded.types with
  | .error error => Step.finish (.failed (.file error))
  | .ok types => return (types, extractor.skipped.length)

/-- The remark about skipped archives. -/
def skippedRemark (count : Nat) : String :=
  "[yellow]⚠ Skipped " ++ toString count ++ " unreadable archive(s)[/yellow]"

/-- Show the members of the forbidden classes as lines of a denylist file. -/
def extract (surroundings : Surroundings) : Step Unit := do
  let terminal := surroundings.terminal
  let settings ← settings surroundings
  if !(← isThere settings.classList) then
    Step.refuse terminal
      (escape settings.classList.text ++ " not found in " ++
        escape surroundings.workingDirectory)
  match Denylist.loadClasses (← Step.files) settings.classList with
  | .error .notText => Step.finish (.failed .notText)
  | .error (.file error) => Step.finish (.failed (.file error))
  | .ok classes =>
      let (types, skipped) ← kitTypes terminal settings
      let entries := denylistEntries types classes
      Step.echoAll (entries.map Denylist.formatEntry)
      Step.report terminal
        ("[dim]" ++ toString entries.length ++ " entries from " ++ toString types.length ++
          " types (SDK " ++ Sdk.fullVersion settings.build ++ ")[/dim]")
      if skipped ≠ 0 then Step.report terminal (skippedRemark skipped)

/-- Write a catalog of the kits. -/
def catalog (surroundings : Surroundings) (output : Files.Path) :
    Step Unit := do
  let terminal := surroundings.terminal
  let settings ← settings surroundings
  let (types, skipped) ← kitTypes terminal settings
  let catalog := Catalog.ofRetained types
  match catalog.save (← Step.files) output with
  | .error .noOrder => Step.finish (.failed .noOrder)
  | .error (.file error) => Step.finish (.failed (.file error))
  | .ok files =>
      Step.setFiles files
      Step.display terminal
        ("[green]✓ Wrote " ++ toString catalog.size ++ " types to " ++ escape output.text ++
          "[/green]")
      if skipped ≠ 0 then Step.display terminal (skippedRemark skipped)

/-- The catalog of library types that a scan uses, if one is named. -/
def scanCatalog (terminal : Terminal) (path : Option Files.Path) :
    Step (Option Catalog) := do
  match path with
  | none => return none
  | some path =>
      match Catalog.load (← Step.files) path with
      | .ok catalog => return some catalog
      | .error (.refused error) => Step.refuse terminal (escape error.message)
      | .error failure => Step.finish (.failed (.catalog failure))

/-- A cell of text that comes from outside. -/
def cell (text : String) : String :=
  Terminal.Markup.plain (escape text)

/-- The row of a finding. -/
def findingRow (finding : Diagnostic) : List String :=
  let message :=
    match finding.message with
    | .ok message => message
    | .error _ => ""
  [cell finding.location.path, toString (finding.location.startLine + 1), finding.rule.id,
    cell message]

/-- The table of findings. -/
def findingTable (findings : List Diagnostic) : Terminal.Table where
  title := "UWP-only API usages (" ++ toString findings.length ++ ")"
  header := ["File", "Line", "Rule", "Message"]
  rows := findings.map findingRow

/-- The line of a finding. -/
def findingLine (finding : Diagnostic) : String :=
  match finding.text with
  | .ok line => line
  | .error _ => ""

/-- Scan sources; the run ends with one if there are findings. -/
def scan (surroundings : Surroundings) (request : ScanRequest) : Step Unit := do
  let terminal := surroundings.terminal
  let settings ← settings surroundings
  let files ← Step.files
  match (← request.paths.filterM fun path => return !(← isThere path)) with
  | path :: _ => Step.refuse terminal ("Path does not exist: " ++ escape path.text)
  | [] => pure ()
  let registry ← registry terminal (settings.denylist.toList ++ request.denylists)
  let catalog ← scanCatalog terminal (request.catalog <|> settings.catalog)
  let sources ←
    match Discovery.discover? files request.paths with
    | .ok sources => pure sources
    | .error error => Step.finish (.failed (.file error))
  let scanner := Source.Scanner.make { registry } catalog
  match scanner.scanFiles surroundings.grammar files sources with
  | .error (.path error) => Step.finish (.failed (.file error))
  | .error (.unit error) => Step.finish (.failed (.scan error))
  | .ok result =>
      Step.warn terminal result.warnings
      if request.asLines then Step.echoAll (result.findings.map findingLine)
      else if result.findings.isEmpty then
        Step.display terminal
          ("[bold green]✓ No UWP-only API usages in " ++ toString sources.length ++
            " file(s).[/bold green]")
      else Step.writeAll (findingTable result.findings).lines
      if !result.findings.isEmpty then Step.finish (.code 1)

/-- The counts of a registry. -/
def statsTable (registry : Registry) : Terminal.Table :=
  let constructors := (registry.members.filter (·.name = constructorName)).length
  { title := "Denylist Statistics"
    header := ["Metric", "Count"]
    rows :=
      [["Distinct Entries", toString registry.size],
        ["Forbidden Types", toString registry.types.size],
        ["Constructors", toString constructors],
        ["Static Methods", toString (registry.members.length - constructors)]] }

/-- Count the entries of the denylist. -/
def stats (surroundings : Surroundings) (denylists : List Files.Path) :
    Step Unit := do
  let registry ← registry surroundings.terminal denylists
  Step.writeAll (statsTable registry).lines

/-- Look a name up in the denylist; the run ends with one if it is not there. -/
def check
    (surroundings : Surroundings)
    (name : String)
    (denylists : List Files.Path) :
    Step Unit := do
  let terminal := surroundings.terminal
  let registry ← registry terminal denylists
  if registry.contains name then
    Step.display terminal ("[bold red]✗ " ++ escape name ++ " is a forbidden member[/bold red]")
  else if registry.containsType name then
    Step.display terminal ("[bold red]✗ " ++ escape name ++ " is a forbidden type[/bold red]")
    if registry.contains (memberKey name constructorName) then
      Step.display terminal "[dim]  its constructors are forbidden too[/dim]"
  else
    Step.display terminal ("[green]✓ " ++ escape name ++ " is not in the denylist[/green]")
    Step.finish (.code 1)

/-- The commands of the program, a line each. -/
def helpLines : List String :=
  ["extract", "catalog OUTPUT",
    "scan PATHS... [--catalog FILE] [--denylist FILE]... [--jobs N] [--plain]",
    "denylist stats [--denylist FILE]...", "denylist check NAME [--denylist FILE]...",
    "version"]

/-- Carry out a request. -/
def perform (surroundings : Surroundings) : Request → Step Unit
  | .extract => extract surroundings
  | .catalog output => catalog surroundings output
  | .scan request => scan surroundings request
  | .stats denylists => stats surroundings denylists
  | .check name denylists => check surroundings name denylists
  | .version => Step.write programVersion
  | .help => Step.writeAll helpLines

/-- Run the program on the words of a command line. -/
def run (surroundings : Surroundings) (arguments : List String) :
    Ending × Transcript :=
  let before : Transcript := { files := surroundings.files }
  match Request.parse arguments with
  | .error _ => (.misused, before)
  | .ok request =>
      match (perform surroundings request).run.run before with
      | (.ok _, after) => (.code 0, after)
      | (.error ending, after) => (ending, after)

/-- Run the program several times; each run sees the files that the one before left. -/
def runAll (surroundings : Surroundings) :
    List (List String) → List (Ending × Transcript) × Files.Node
  | [] => ([], surroundings.files)
  | arguments :: rest =>
      let (ending, transcript) := run surroundings arguments
      let (later, files) := runAll { surroundings with files := transcript.files } rest
      ((ending, transcript) :: later, files)

end WinrtLint.Command
