import WinrtLint.Files.Tree
import WinrtLint.Settings.EnvFile
import WinrtLint.Text.Digit

/-!
# Settings

Settings are read from the variables of the environment whenever they are
asked for.  Before that, the variables of an environment file are added, and
the build of the kits is checked to be a number.
-/

namespace WinrtLint

/-- What a run is told by its environment. -/
structure Settings where
  /-- The root folder of the kits. -/
  kitsRoot : Files.Path
  /-- The number of the build whose archives are read. -/
  build : String
  /-- The list of forbidden classes. -/
  classList : Files.Path
  /-- A denylist file beside the curated one. -/
  denylist : Option Files.Path
  /-- A catalog of library types. -/
  catalog : Option Files.Path
  deriving DecidableEq, Repr

namespace Settings

/-- The build that the curated denylist was made from. -/
def defaultBuild : String :=
  "10586"

/-- Where the kits are unless it is said otherwise. -/
def defaultKitsRoot : String :=
  "C:\\Program Files (x86)\\Windows Kits\\10"

/-- Where the list of forbidden classes is unless it is said otherwise. -/
def defaultClassList : String :=
  "ForbiddenClasses.txt"

/-- The variable that holds the root of the kits. -/
def kitsRootVariable : String :=
  "UWP_GUARD_SDK_ROOT"

/-- The variable that holds the build. -/
def buildVariable : String :=
  "UWP_GUARD_SDK_VERSION"

/-- The variable that holds the list of forbidden classes. -/
def classListVariable : String :=
  "UWP_GUARD_FORBIDDEN_CLASSES"

/-- The variable that holds a denylist file. -/
def denylistVariable : String :=
  "UWP_GUARD_DENYLIST"

/-- The variable that holds a catalog. -/
def catalogVariable : String :=
  "UWP_GUARD_CATALOG"

/-- The variable that switches environment files off. -/
def fileSwitchVariable : String :=
  "PYTHON_DOTENV_DISABLED"

/-- The variables that settings are read from. -/
def variableNames : List String :=
  [kitsRootVariable, buildVariable, classListVariable, denylistVariable, catalogVariable,
    fileSwitchVariable]

/-- The path in a variable; an empty variable counts as one that is not set. -/
def path? (environment : Environment) (name : String) : Option Files.Path :=
  match environment.getD name "" with
  | "" => none
  | text => some (.ofString text)

/-- The settings of an environment. -/
def ofEnvironment (environment : Environment) : Settings where
  kitsRoot := .ofString (environment.getD kitsRootVariable defaultKitsRoot)
  build := Text.trimString (environment.getD buildVariable defaultBuild)
  classList := .ofString (environment.getD classListVariable defaultClassList)
  denylist := path? environment denylistVariable
  catalog := path? environment catalogVariable

/-- Why settings are refused. -/
inductive Refusal where
  /-- The build is not a number. -/
  | build (value : String)
  /-- The environment file sets a variable that cannot be. -/
  | badVariable (cause : VariableError)
  /-- The environment file is not UTF-8. -/
  | notText (fault : Text.Utf8.Fault)
  /-- The path of the environment file has a null character. -/
  | nullInPath
  deriving DecidableEq, Repr

/-- The wording of refused settings. -/
def Refusal.message : Refusal → String
  | .build value =>
      buildVariable ++ " must be a build number such as '" ++ defaultBuild ++ "', got '" ++
        value ++ "'."
  | .badVariable cause => cause.message
  | .notText fault => fault.message
  | .nullInPath => Files.Fault.message .nullCharacter

/-- Whether a build is a number: digits and nothing else. -/
def isBuild (build : String) : Bool :=
  !build.toList.isEmpty && build.toList.all Text.isDigit

/-- The settings of an environment, provided that its build is a number. -/
def check (environment : Environment) : Except Refusal Settings :=
  let settings := ofEnvironment environment
  if isBuild settings.build then .ok settings else .error (.build settings.build)

/-- Where the environment file is unless it is said otherwise. -/
def defaultEnvFile : Files.Path :=
  .ofString ".env"

/-- A letter without its case; the long s counts as an s. -/
def caseless (char : Char) : Char :=
  if char = 'ſ' then 's' else char.toLower

/-- The answers, without their case, that count as yes. -/
def affirmations : List String :=
  ["1", "true", "t", "yes", "y"]

/-- Whether environment files are passed over. -/
def ignoresFiles (environment : Environment) : Bool :=
  affirmations.contains ((environment.getD fileSwitchVariable "").map caseless)

/--
The text of an environment file, if it is there and not passed over.  One byte
order mark in front does not belong to it.
-/
def fileText?
    (files : Files.Node)
    (path : Files.Path)
    (environment : Environment) :
    Except Refusal (Option (List Char)) :=
  if ignoresFiles environment then .ok none
  else
    match files.at? path with
    | .ok (.file content) =>
        match Text.Utf8.fault? content.toList with
        | some fault => .error (.notText fault)
        | none => .ok ((Files.textOf? content).map Text.dropByteOrderMark)
    | .error .nullCharacter => .error .nullInPath
    | _ => .ok none

/-- Add the variables of an environment file; where there is no file, there are none. -/
def addFile
    (files : Files.Node)
    (path : Files.Path)
    (environment : Environment) :
    Environment × Except Refusal Unit :=
  match fileText? files path environment with
  | .error fault => (environment, .error fault)
  | .ok none => (environment, .ok ())
  | .ok (some text) =>
      let (environment, result) := EnvFile.apply environment text
      (environment, result.mapError .badVariable)

/-- The remarks about an environment file. -/
def fileRemarks
    (files : Files.Node)
    (path : Files.Path)
    (environment : Environment) :
    List String :=
  match fileText? files path environment with
  | .ok (some text) => (EnvFile.malformedLines text).map EnvFile.malformedRemark
  | _ => []

/--
Add the variables of an environment file and check the settings.  What was
added stays, whether the settings are accepted or not.
-/
def load (files : Files.Node) (path : Files.Path) (environment : Environment) :
    Environment × Except Refusal Settings :=
  match addFile files path environment with
  | (environment, .error fault) => (environment, .error fault)
  | (environment, .ok _) => (environment, check environment)

end Settings

end WinrtLint
