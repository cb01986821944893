import WinrtLint.Analysis.Unit
import WinrtLint.Source.Binding

/-!
# Scanning a C# unit

The host of a C# unit delivers the invocations, creations, declarations and
casts of its tree in pre-order and answers by binding names.  The findings
come out ordered by position.
-/

namespace WinrtLint.Source

/-- A site in the role in which it was reached. -/
structure HostSite where
  site : Site
  role : Option Role := none

namespace HostSite

/-- Where a site stands in a file. -/
def location (path : String) (node : HostSite) : Location :=
  let label := node.site.node.label
  { path
    startLine := label.start.line
    startColumn := label.start.column
    endLine := some label.stop.line
    endColumn := some label.stop.column
    inSource := !label.isMissing }

/-- The field of the grammar that holds a role. -/
def roleField? : Role → Option Field
  | .expression => some .function
  | .type => some .type
  | .asClause => none

/-- The sub-node in a role. -/
def child (node : HostSite) (role : Role) : Option HostSite :=
  (roleField? role).bind fun field =>
    (node.site.childIn? field).map fun site => ⟨site, some role⟩

/-- The name under which the analysis knows a node. -/
def kind (node : HostSite) : String :=
  node.site.node.kind.hostKind?.getD ""

end HostSite

namespace Model

/-- What binding answers about a node. -/
def answer (model : Model) (node : HostSite) : Answer :=
  match model.symbolAt node.role node.site with
  | .error failure => .failed failure
  | .ok none => .absent
  | .ok (some symbol) => .symbol symbol

/-- The host of a unit in a file. -/
def host (model : Model) (path : String) : Host HostSite where
  kind := HostSite.kind
  location := HostSite.location path
  child := HostSite.child
  answer := model.answer

end Model

/-- The nodes of a unit that are judged, in pre-order. -/
def candidates (root : Tree) : List HostSite :=
  (root.sites.filter fun site => site.node.kind.hostKind?.isSome).map fun site => ⟨site, none⟩

/-- Whether a finding stands no later than another one. -/
def notLater (left right : Diagnostic) : Bool :=
  left.location.startLine < right.location.startLine ||
    (left.location.startLine = right.location.startLine &&
      left.location.startColumn ≤ right.location.startColumn)

/-- What a scan looks for and the library types that it knows. -/
structure Scanner where
  analyzer : Analyzer
  catalog : Catalog

namespace Scanner

/-- A scanner; without a catalog, the one inferred from the registry is used. -/
def make (analyzer : Analyzer) (catalog : Option Catalog) : Scanner :=
  ⟨analyzer, catalog.getD (.ofRegistry analyzer.registry)⟩

/-- The findings in a unit, ordered by position. -/
def scan (scanner : Scanner) (path : String) (root : Tree) :
    Except ScanError (List Diagnostic) := do
  let model := Model.ofTree scanner.catalog root
  let findings ←
    scanner.analyzer.analyze .csharp (model.host path) (candidates root)
  return findings.mergeSort notLater

end Scanner

end WinrtLint.Source
