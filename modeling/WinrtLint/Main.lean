import WinrtLint.Command.Run
import WinrtLint.Source.RowDocument

/-!
# The program

The working directory is read, one run is carried out on it, and what the run
wrote goes to the terminal and to the files.
-/

namespace WinrtLint

/-- The files below a folder. -/
partial def readFolder (entries : Array IO.FS.DirEntry) : IO Files.Node := do
  let nodes ← entries.toList.mapM fun entry => do
    if ← entry.path.isDir then
      return (entry.fileName, ← readFolder (← entry.path.readDir))
    else
      return (entry.fileName, Files.Node.file (← IO.FS.readBinFile entry.path).data)
  return .folder nodes

/-- The variables that a run may ask for, as far as they are set. -/
def readEnvironment (mentioned : List String) : IO Settings.Environment := do
  let names := Settings.variableNames ++ Settings.Environment.automationMarks ++ mentioned
  let entries ← names.filterMapM fun name => do
    return (← IO.getEnv name).map fun value => (name, value)
  return ⟨Dictionary.ofList entries⟩

/-- The names that an environment file sets or refers to. -/
def mentionedNames (files : Files.Node) : List String :=
  match files.readText Settings.defaultEnvFile with
  | .error _ => []
  | .ok text =>
      (Settings.EnvFile.bindings (Text.dropByteOrderMark text)).flatMap fun binding =>
        binding.name ::
          (Settings.EnvFile.pieces (binding.value.getD "").toList).filterMap fun piece =>
            match piece with
            | .reference name _ => some name
            | .char _ => none

/-- Write the files that a run changed. -/
def writeChanges (before after : Files.Node) : IO Unit := do
  for parts in after.filesBelow do
    let path : Files.Path := ⟨"", parts⟩
    match after.read path with
    | .error _ => pure ()
    | .ok content =>
        let unchanged :=
          match before.read path with
          | .ok earlier => earlier = content
          | .error _ => false
        if !unchanged then IO.FS.writeBinFile path.text ⟨content⟩

/-- The wording of a failure that a run does not deal with. -/
def Command.Failure.message : Command.Failure → String
  | .file error => error.message
  | .notText => "a file is not UTF-8"
  | .catalog failure => failure.message
  | .noOrder => "a catalog has no order"
  | .scan error => error.message

end WinrtLint

open WinrtLint in
/-- Run the program. -/
def main (arguments : List String) : IO UInt32 := do
  let directory ← IO.currentDir
  let files ← readFolder (← directory.readDir)
  let environment ← readEnvironment (mentionedNames files)
  let sources := Discovery.discover files [.ofString "."]
  let (ending, transcript) := Command.run
    { environment, files
      workingDirectory := directory.toString
      grammar := Source.grammarBeside files sources } arguments
  transcript.output.forM fun line => IO.println line
  transcript.messages.forM fun line => IO.eprintln line
  writeChanges files transcript.files
  match ending with
  | .failed failure => IO.eprintln failure.message
  | .misused => Command.helpLines.forM fun line => IO.eprintln line
  | .code _ => pure ()
  return ending.exitCode.toUInt32
