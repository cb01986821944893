import WinrtLint.Analysis.Match
import WinrtLint.Diagnostic.Reporter

/-!
# The analysis of compilation units

A host begins a unit, delivers its nodes one by one and ends it.  Findings are
held back until the end and then go to a sink that all units share.
-/

namespace WinrtLint

/-- What an analysis looks for; shared by all units. -/
structure Analyzer where
  registry : Registry
  /-- The strategies, tried in order. -/
  strategies : List Strategy := Strategy.all
  rule : Rule := .appOnly

/-- Why an event of a unit fails. -/
inductive ScanError where
  /-- The unit has ended. -/
  | ended (cause : UnitEnded)
  /-- The host broke down. -/
  | host (failure : HostFailure)
  deriving DecidableEq, Repr

/-- The wording of a failed event. -/
def ScanError.message : ScanError → String
  | .ended cause => cause.message
  | .host failure => failure.message

/-- One unit under analysis. -/
structure UnitScan where
  family : Family
  reporter : Reporter
  deriving DecidableEq, Repr

namespace Analyzer

variable {Node : Type}

/-- The first finding of the given strategies at a node of a category. -/
def firstMatch
    (analyzer : Analyzer)
    (family : Family)
    (host : Host Node)
    (node : Node)
    (category : Category) :
    List Strategy → Except HostFailure (Option String)
  | [] => .ok none
  | strategy :: rest => do
      match ← strategy.find analyzer.registry family host node category with
      | some name => return some name
      | none => analyzer.firstMatch family host node category rest

/-- Begin a unit. -/
def begin (analyzer : Analyzer) (family : Family) : UnitScan :=
  ⟨family, .start analyzer.rule⟩

/--
Deliver a node to a unit.  Nodes of no category and nodes without literal
source are passed over, and so are nodes on a line that has a finding.  The
answer is the finding that the node gave rise to, made from the rule of the
analyzer, as the reporter makes its own from the rule with which it was begun.
-/
def visit
    (analyzer : Analyzer)
    (host : Host Node)
    (unit : UnitScan)
    (node : Node) :
    Except ScanError (Option Diagnostic × UnitScan) :=
  match unit.family.category? (host.kind node) with
  | none => .ok (none, unit)
  | some category =>
      let location := host.location node
      if !location.inSource then .ok (none, unit)
      else
        match unit.reporter.hasLine location.startLine with
        | .error cause => .error (.ended cause)
        | .ok true => .ok (none, unit)
        | .ok false =>
            match analyzer.firstMatch unit.family host node category
                analyzer.strategies with
            | .error failure => .error (.host failure)
            | .ok none => .ok (none, unit)
            | .ok (some name) =>
                match unit.reporter.report name location with
                | .error cause => .error (.ended cause)
                | .ok (_, reporter) =>
                    .ok (some ⟨analyzer.rule, location, [name]⟩, { unit with reporter })

/-- Deliver nodes in order. -/
def visitAll (analyzer : Analyzer) (host : Host Node) :
    UnitScan → List Node → Except ScanError UnitScan
  | unit, [] => .ok unit
  | unit, node :: rest => do
      let (_, unit) ← analyzer.visit host unit node
      analyzer.visitAll host unit rest

/-- End a unit; its findings. -/
def finish (unit : UnitScan) : Except ScanError (List Diagnostic × UnitScan) :=
  match unit.reporter.finish with
  | .error cause => .error (.ended cause)
  | .ok (findings, reporter) => .ok (findings, { unit with reporter })

/-- Analyse a whole unit: begin it, deliver its nodes, end it. -/
def analyze
    (analyzer : Analyzer)
    (family : Family)
    (host : Host Node)
    (nodes : List Node) :
    Except ScanError (List Diagnostic) := do
  let unit ← analyzer.visitAll host (analyzer.begin family) nodes
  let (findings, _) ← finish unit
  return findings

end Analyzer

end WinrtLint
