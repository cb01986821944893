import WinrtLint.Diagnostic.Basic

/-!
# Reporters

A reporter gathers the findings of one compilation unit, at most one for each
line.  The first finding on a line stays.  When the unit ends the reporter
hands over what it gathered, and takes nothing more.
-/

namespace WinrtLint

/-- The findings of one unit. -/
structure Reporter where
  /-- The rule of the findings. -/
  rule : Rule
  /-- The findings so far, in order; `none` once the unit has ended. -/
  pending : Option (List Diagnostic)
  deriving DecidableEq, Repr

/-- The unit has ended. -/
inductive UnitEnded where
  | ended
  deriving DecidableEq, Repr

/-- The wording of an event that comes after the end of its unit. -/
def UnitEnded.message : UnitEnded → String
  | .ended => "compilation unit scan already ended"

/-- Whether one of the findings starts on a line. -/
def hasLine (findings : List Diagnostic) (line : Int) : Bool :=
  findings.any fun finding => finding.location.startLine = line

namespace Reporter

/-- The reporter at the start of a unit. -/
def start (rule : Rule) : Reporter :=
  ⟨rule, some []⟩

/-- The findings of a unit that has not ended. -/
def findings (reporter : Reporter) : Except UnitEnded (List Diagnostic) :=
  match reporter.pending with
  | some findings => .ok findings
  | none => .error .ended

/-- Whether a line already has a finding. -/
def hasLine (reporter : Reporter) (line : Int) : Except UnitEnded Bool := do
  let findings ← reporter.findings
  return WinrtLint.hasLine findings line

/-- The finding that a reporter makes of a name at a location. -/
def finding (reporter : Reporter) (name : String) (location : Location) :
    Diagnostic :=
  ⟨reporter.rule, location, [name]⟩

/-- Record a finding unless its line has one; tells whether it was kept. -/
def report (reporter : Reporter) (name : String) (location : Location) :
    Except UnitEnded (Bool × Reporter) := do
  let findings ← reporter.findings
  if WinrtLint.hasLine findings location.startLine then return (false, reporter)
  else
    let kept := findings ++ [reporter.finding name location]
    return (true, { reporter with pending := some kept })

/-- End the unit and hand over its findings. -/
def finish (reporter : Reporter) :
    Except UnitEnded (List Diagnostic × Reporter) := do
  let findings ← reporter.findings
  return (findings, { reporter with pending := none })

end Reporter

end WinrtLint
