import WinrtLint.Dictionary

/-!
# The environment

The environment of a run is a dictionary of variables.  A variable's name has
characters, the equals sign not among them, and neither its name nor its value
has a null character.
-/

namespace WinrtLint.Settings

/-- The variables of a run. -/
structure Environment where
  values : Dictionary String String
  deriving DecidableEq

/-- Why a variable cannot be set. -/
inductive VariableError where
  /-- The name or the value has a null character. -/
  | nullCharacter
  /-- The name has an equals sign. -/
  | equalsSign
  /-- The name is empty. -/
  | noName
  deriving DecidableEq, Repr

/-- The wording of a refused variable. -/
def VariableError.message : VariableError → String
  | .nullCharacter => "embedded null byte"
  | .equalsSign => "illegal environment variable name"
  | .noName => "[Errno 22] Invalid argument"

namespace Environment

/-- The environment without variables. -/
def empty : Environment :=
  ⟨.empty⟩

instance : Inhabited Environment :=
  ⟨empty⟩

/-- The value of a variable. -/
def get? (environment : Environment) (name : String) : Option String :=
  environment.values.get? name

/-- The value of a variable, or another text if it is not set. -/
def getD (environment : Environment) (name fallback : String) : String :=
  (environment.get? name).getD fallback

/-- Whether a variable is set. -/
def contains (environment : Environment) (name : String) : Bool :=
  environment.values.contains name

/-- Set a variable. -/
def set (environment : Environment) (name value : String) :
    Except VariableError Environment :=
  if name.toList.contains '\x00' || value.toList.contains '\x00' then
    .error .nullCharacter
  else if name.toList.contains '=' then .error .equalsSign
  else if name.isEmpty then .error .noName
  else .ok ⟨environment.values.insert name value⟩

/-- Take a variable away. -/
def unset (environment : Environment) (name : String) : Environment :=
  ⟨environment.values.erase name⟩

/-- The variables by which build services make themselves known. -/
def automationMarks : List String :=
  ["GITHUB_ACTIONS", "CI", "TF_BUILD", "GITLAB_CI", "APPVEYOR", "JENKINS_HOME"]

/-- Whether a build service runs the program: one of its variables is not empty. -/
def isAutomated (environment : Environment) : Bool :=
  automationMarks.any fun name => environment.getD name "" ≠ ""

end Environment

end WinrtLint.Settings
