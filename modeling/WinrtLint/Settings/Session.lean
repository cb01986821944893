import WinrtLint.Settings.Basic

/-!
# Sessions with shared settings

Within a session, settings are loaded once and then shared, until they are
dropped.  They can be loaded apart from the shared ones as well.  Each loading
that succeeds has a number of its own; whether two answers come from one
loading shows in the numbers.
-/

namespace WinrtLint.Settings

/-- The state of a session. -/
structure Session where
  environment : Environment
  /-- How many loadings have succeeded. -/
  loadings : Nat := 0
  /-- The loading that is shared. -/
  shared : Option Nat := none
  /-- The loading that was answered with last. -/
  latest : Option Nat := none

namespace Session

/-- Load settings apart from the shared ones. -/
def fresh (session : Session) (files : Files.Node) (path : Files.Path) :
    Session × Except Refusal Settings :=
  match load files path session.environment with
  | (environment, .error fault) => ({ session with environment }, .error fault)
  | (environment, .ok settings) =>
      ({ session with
          environment, loadings := session.loadings + 1, latest := some session.loadings },
        .ok settings)

/-- The shared settings, loaded if need be. -/
def obtain (session : Session) (files : Files.Node) :
    Session × Except Refusal Settings :=
  match session.shared with
  | some number =>
      ({ session with latest := some number }, .ok (ofEnvironment session.environment))
  | none =>
      match session.fresh files defaultEnvFile with
      | (session, .error fault) => (session, .error fault)
      | (session, .ok settings) => ({ session with shared := session.latest }, .ok settings)

/-- The wording where no settings were answered with yet. -/
def missingMessage : String :=
  "'NoneType' object has no attribute 'sdk_root'"

/-- The settings that were answered with last, as the environment gives them now. -/
def current? (session : Session) : Option Settings :=
  session.latest.map fun _ => ofEnvironment session.environment

/-- Drop the shared settings. -/
def reset (session : Session) : Session :=
  { session with shared := none }

end Session

end WinrtLint.Settings
