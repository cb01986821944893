import WinrtLint.Analysis.Unit

/-!
# Interleaved units

In a session several units are under analysis at once.  They are told apart by
number, and share one sink, which receives the findings of a unit when it ends.
-/

namespace WinrtLint

/-- The units of a session and the findings handed over so far. -/
structure Session where
  /-- The units that were begun; the latest one of a number counts. -/
  units : List (Nat × UnitScan)
  /-- The findings of the units that have ended, in order of ending. -/
  sink : List Diagnostic

/-- Why an event of a session fails. -/
inductive SessionError where
  /-- No unit was begun under the number. -/
  | unknownUnit (number : Nat)
  /-- The unit turns the event down. -/
  | scan (error : ScanError)
  deriving DecidableEq, Repr

namespace Session

variable {Node : Type}

/-- A session without units. -/
def start : Session :=
  ⟨[], []⟩

/-- The unit of a number. -/
def unit? (session : Session) (number : Nat) : Option UnitScan :=
  session.units.lookup number

/-- Put a unit in the place of its number. -/
def setUnit (session : Session) (number : Nat) (unit : UnitScan) : Session :=
  { session with
    units := (number, unit) :: session.units.filter fun entry => entry.1 ≠ number }

/-- Begin a unit under a number. -/
def beginUnit
    (session : Session)
    (analyzer : Analyzer)
    (number : Nat)
    (family : Family) :
    Session :=
  session.setUnit number (analyzer.begin family)

/-- Deliver a node to a unit that was begun. -/
def visit
    (session : Session)
    (analyzer : Analyzer)
    (host : Host Node)
    (number : Nat)
    (node : Node) :
    Except SessionError (Option Diagnostic × Session) :=
  match session.unit? number with
  | none => .error (.unknownUnit number)
  | some unit =>
      match analyzer.visit host unit node with
      | .error error => .error (.scan error)
      | .ok (finding, unit) => .ok (finding, session.setUnit number unit)

/-- End a unit that was begun and hand its findings to the sink. -/
def finish (session : Session) (number : Nat) :
    Except SessionError (List Diagnostic × Session) :=
  match session.unit? number with
  | none => .error (.unknownUnit number)
  | some unit =>
      match Analyzer.finish unit with
      | .error error => .error (.scan error)
      | .ok (findings, unit) =>
          .ok (findings,
            { session.setUnit number unit with sink := session.sink ++ findings })

/-- Analyse a whole unit apart from the others and hand its findings to the sink. -/
def analyze
    (session : Session)
    (analyzer : Analyzer)
    (family : Family)
    (host : Host Node)
    (nodes : List Node) :
    Except SessionError (List Diagnostic × Session) :=
  match analyzer.analyze family host nodes with
  | .error error => .error (.scan error)
  | .ok findings => .ok (findings, { session with sink := session.sink ++ findings })

end Session

end WinrtLint
