import WinrtLint.Proofs.Analysis.FirstHits
import WinrtLint.Proofs.Source.Binding
import WinrtLint.Proofs.Source.RowOrder
import WinrtLint.Source.Files

/-!
# The order of the findings of a scan

A scan judges the nodes of a unit in pre-order and sorts what it finds.  It
comes to an end with the findings of these nodes, sorted, unless the root of
the unit is a top-level statement (`scan_cases`).  No two findings share a
line, so sorting makes their lines increase.  Where the nodes start in order,
the findings come in order already, and of all nodes on a line that are flagged
the first is the leftmost.
-/

namespace WinrtLint.Source

open WinrtLint.Outcome

namespace Scanner

variable (scanner : Scanner) (path : String) (root : Tree)

/-- The host that answers for a unit. -/
def host : Host HostSite :=
  (Model.ofTree scanner.catalog root).host path

/-- The findings in a unit in the order in which they are made. -/
def found : List Diagnostic :=
  scanner.analyzer.findings .csharp (scanner.host path root) (candidates root)

/-- A site holds an invocation, creation, declaration or cast in literal source that the
registry matches. -/
def Flags (site : Site) : Prop :=
  site.node.label.isMissing = false ∧
  site.node.kind ∈
    [Kind.invocation, Kind.objectCreation, Kind.variableDeclaration, Kind.castExpression] ∧
  ∃ name, scanner.analyzer.Hit .csharp (scanner.host path root) ⟨site, none⟩ name

end Scanner

theorem Kind.isSome_hostKind? {kind : Kind} :
    kind.hostKind?.isSome = true ↔
      kind ∈ [Kind.invocation, Kind.objectCreation, Kind.variableDeclaration,
        Kind.castExpression] := by
  cases kind <;> simp [Kind.hostKind?]

theorem mem_candidates {root : Tree} {node : HostSite} :
    node ∈ candidates root ↔
      ∃ site ∈ root.sites,
        site.node.kind ∈ [Kind.invocation, Kind.objectCreation, Kind.variableDeclaration,
          Kind.castExpression] ∧
        node = ⟨site, none⟩ := by
  rw [candidates, List.mem_map]
  constructor
  · rintro ⟨site, member, rfl⟩
    rcases List.mem_filter.1 member with ⟨inside, judged⟩
    exact ⟨site, inside, Kind.isSome_hostKind?.1 judged, rfl⟩
  · rintro ⟨site, inside, judged, rfl⟩
    exact ⟨site, List.mem_filter.2 ⟨inside, Kind.isSome_hostKind?.2 judged⟩, rfl⟩

namespace Scanner

variable {scanner : Scanner} {path : String} {root : Tree}

/-- The sites that are flagged are the hits among the nodes that are judged. -/
theorem exists_flags (condition : Location → Prop) :
    (∃ node ∈ candidates root, ∃ name,
        scanner.analyzer.Hit .csharp (scanner.host path root) node name ∧
        condition ((scanner.host path root).location node)) ↔
      ∃ site ∈ root.sites, scanner.Flags path root site ∧
        condition (HostSite.location path ⟨site, none⟩) := by
  constructor
  · rintro ⟨node, member, name, hit, condition⟩
    rcases mem_candidates.1 member with ⟨site, inside, judged, rfl⟩
    have literal : site.node.label.isMissing = false := by
      rcases hit with ⟨_, -, literal, -⟩
      simpa [host, Model.host, HostSite.location] using literal
    exact ⟨site, inside, ⟨literal, judged, name, hit⟩, condition⟩
  · rintro ⟨site, inside, ⟨-, judged, name, hit⟩, condition⟩
    exact ⟨⟨site, none⟩, mem_candidates.2 ⟨site, inside, judged, rfl⟩, name, hit, condition⟩

/-! ## How a scan ends -/

theorem breaks_candidate
    {node : HostSite}
    {failure : HostFailure}
    (member : node ∈ candidates root)
    (breaks : scanner.analyzer.Breaks .csharp (scanner.host path root) node failure) :
    failure = .statementOutsideUnit ∧ root.kind = .globalStatement := by
  rcases mem_candidates.1 member with ⟨site, inside, -, rfl⟩
  rcases breaks.part with ⟨category, target, part, failed⟩
  -- Whatever the category, the part is the child of the site in some field.
  have child : ∃ role, HostSite.child ⟨site, none⟩ role = some target := by
    cases category with
    | invocation => exact ⟨.expression, part⟩
    | _ => exact ⟨.type, part⟩
  rcases child with ⟨role, child⟩
  rcases Option.bind_eq_some_iff.1 child with ⟨field, -, child⟩
  rcases Option.map_eq_some_iff.1 child with ⟨below, found, rfl⟩
  exact Model.answer_eq_failed (Tree.mem_sites_of_childIn? inside found) failed

/-- A scan gives its findings, sorted, unless the root of the unit is a top-level statement. -/
theorem scan_cases (scanner : Scanner) (path : String) (root : Tree) :
    scanner.analyzer.analyze .csharp (scanner.host path root) (candidates root) =
        .ok (scanner.found path root) ∧
      scanner.scan path root = .ok ((scanner.found path root).mergeSort notLater) ∨
    root.kind = .globalStatement ∧
      scanner.scan path root = .error (.host .statementOutsideUnit) := by
  rcases scanner.analyzer.analyze_cases .csharp (scanner.host path root) (candidates root) with
    done | ⟨node, member, failure, breaks, stopped⟩
  · left
    refine ⟨done, ?_⟩
    rw [host] at done
    rw [scan, done]
    rfl
  · right
    rcases breaks_candidate member breaks with ⟨rfl, isStatement⟩
    refine ⟨isStatement, ?_⟩
    rw [host] at stopped
    rw [scan, stopped]
    rfl

theorem mem_lines_found {line : Int} :
    line ∈ (scanner.found path root).map (·.location.startLine) ↔
      ∃ site ∈ root.sites, scanner.Flags path root site ∧
        (site.node.label.start.line : Int) = line :=
  Analyzer.mem_lines_findings.trans (exists_flags fun location => location.startLine = line)

/-! ## Sorted findings -/

/-- A location starts on an earlier line than another one, or on its line and not behind it. -/
def NotBehind (left right : Location) : Prop :=
  left.startLine < right.startLine ∨
    left.startLine = right.startLine ∧ left.startColumn ≤ right.startColumn

theorem notLater_iff {left right : Diagnostic} :
    notLater left right = true ↔ NotBehind left.location right.location := by
  simp [notLater, NotBehind]

/-- Findings no two of which share a line stand, once sorted, on increasing lines. -/
theorem lines_increase_of_nodup
    {findings : List Diagnostic}
    (apart : (findings.map (·.location.startLine)).Nodup) :
    ((findings.mergeSort notLater).map (·.location.startLine)).Pairwise (· < ·) := by
  have sorted : (findings.mergeSort notLater).Pairwise fun left right => notLater left right := by
    apply List.pairwise_mergeSort
    · intro first second third
      simp only [notLater_iff, NotBehind]
      omega
    · intro left right
      simp only [Bool.or_eq_true, notLater_iff, NotBehind]
      omega
  have distinct : ((findings.mergeSort notLater).map (·.location.startLine)).Nodup :=
    ((List.mergeSort_perm findings notLater).map _).nodup_iff.2 apart
  rw [List.pairwise_map]
  apply (sorted.and (List.pairwise_map.1 distinct)).imp
  rintro left right ⟨inOrder, different⟩
  rcases notLater_iff.1 inOrder with earlier | ⟨same, -⟩
  · exact earlier
  · exact absurd same different

/-! ## Nodes in order -/

/-- The nodes that are judged stand in the order of the tree. -/
theorem pairwise_candidates
    (path : String)
    (inOrder : root.preorder.Pairwise fun left right =>
      left.label.start.place ≤ right.label.start.place) :
    (candidates root).Pairwise fun left right =>
      NotBehind (left.location path) (right.location path) := by
  rw [← Tree.map_node_sites, List.pairwise_map] at inOrder
  rw [candidates, List.pairwise_map]
  apply (inOrder.filter _).imp
  intro left right before
  have := Point.place_le_iff.1 before
  simp only [NotBehind, HostSite.location]
  omega

/-- Findings made in the order of their nodes need no sorting. -/
theorem mergeSort_found
    (inOrder : root.preorder.Pairwise fun left right =>
      left.label.start.place ≤ right.label.start.place) :
    (scanner.found path root).mergeSort notLater = scanner.found path root := by
  apply List.mergeSort_of_pairwise
  have nodes : ((candidates root).map (scanner.host path root).location).Pairwise NotBehind :=
    List.pairwise_map.2 (pairwise_candidates path inOrder)
  have findings : ((scanner.found path root).map (·.location)).Pairwise NotBehind :=
    nodes.sublist (Analyzer.location_findings_sublist (candidates root))
  exact (List.pairwise_map.1 findings).imp notLater_iff.2

/-- Of the flagged sites on the line of a finding, the one it stands for is leftmost. -/
theorem leftmost_found
    (inOrder : root.preorder.Pairwise fun left right =>
      left.label.start.place ≤ right.label.start.place)
    {finding : Diagnostic}
    (member : finding ∈ scanner.found path root) :
    (∃ site ∈ root.sites, scanner.Flags path root site ∧
      finding.location = HostSite.location path ⟨site, none⟩) ∧
    ∀ site ∈ root.sites, scanner.Flags path root site →
      (site.node.label.start.line : Int) = finding.location.startLine →
      finding.location.startColumn ≤ site.node.label.start.column := by
  rcases Analyzer.mem_findings.1 member with ⟨position, first⟩
  rcases first.before_hits (pairwise_candidates path inOrder) with
    ⟨node, judged, name, hit, place, before⟩
  refine ⟨(exists_flags fun location => finding.location = location).1
    ⟨node, judged, name, hit, place⟩, ?_⟩
  rintro site inside ⟨-, ofKind, otherName, otherHit⟩ sameLine
  have candidate : ⟨site, none⟩ ∈ candidates root :=
    mem_candidates.2 ⟨site, inside, ofKind, rfl⟩
  rw [place] at sameLine ⊢
  rcases before ⟨site, none⟩ candidate otherName otherHit (by rw [place]; exact sameLine) with
    same | ⟨earlier⟩ | ⟨-, left⟩
  · rw [← same]
    exact le_refl _
  · exact absurd sameLine (ne_of_gt earlier)
  · exact left

/--
A scan always ends, unless the root of the unit is a top-level statement.  Its
findings stand on increasing lines, one on each line where a site is flagged.
Where the rows of the unit start in order, in pre-order, the findings are not
moved by being sorted, and each stands at the leftmost flagged site of its line.
-/
theorem scan_total_ordered_leftmost
    (scanner : Scanner)
    (path : String)
    {root : Tree}
    (rooted : root.kind ≠ .globalStatement) :
    ∃ findings,
      scanner.scan path root = .ok findings ∧
      (∀ (grammar : Grammar) (source : Bytes),
        Tree.ofRows? source (grammar source) = some root →
        scanner.scanSource grammar path source = .ok findings) ∧
      (findings.map (·.location.startLine)).Pairwise (· < ·) ∧
      (∀ line, line ∈ findings.map (·.location.startLine) ↔
        ∃ site ∈ root.sites, scanner.Flags path root site ∧
          (site.node.label.start.line : Int) = line) ∧
      ∀ (source : Bytes) (rows : List Row), Tree.ofRows? source rows = some root →
        ((preorderRows rows).Pairwise fun left right => left.start ≤ right.start) →
        scanner.analyzer.analyze .csharp (scanner.host path root) (candidates root) =
          .ok findings ∧
        ∀ finding ∈ findings,
          (∃ site ∈ root.sites, scanner.Flags path root site ∧
            finding.location = HostSite.location path ⟨site, none⟩) ∧
          ∀ site ∈ root.sites, scanner.Flags path root site →
            (site.node.label.start.line : Int) = finding.location.startLine →
            finding.location.startColumn ≤ site.node.label.start.column := by
  rcases scanner.scan_cases path root with ⟨analyzed, scanned⟩ | ⟨isStatement, -⟩
  · refine ⟨(scanner.found path root).mergeSort notLater, scanned, ?_, ?_, ?_, ?_⟩
    · intro grammar source parsed
      rw [scanSource, parsed]
      exact scanned
    · exact lines_increase_of_nodup (Analyzer.lines_nodup_findings (candidates root))
    · intro line
      rw [((List.mergeSort_perm (scanner.found path root) notLater).map _).mem_iff]
      exact mem_lines_found
    · intro source rows built startInOrder
      have inOrder := pairwise_place_preorder built startInOrder
      rw [mergeSort_found inOrder]
      exact ⟨analyzed, fun finding member => leftmost_found inOrder member⟩
  · exact absurd isStatement rooted

end Scanner

/-! ## A sample unit -/

/-- Two calls of a forbidden method on one line. -/
def sampleSource : Bytes :=
  (Text.Utf8.encode "Sample.Counter.Read(); Sample.Counter.Read();").toArray

/-- The rows of one of these calls, the first of them at an index of the table. -/
def sampleStatement (index start : Nat) : List Row :=
  [⟨some 0, "global_statement", none, start, start + 22, true, false⟩,
    ⟨some index, "invocation_expression", none, start, start + 21, true, false⟩,
    ⟨some (index + 1), "member_access_expression", some "function", start, start + 19, true, false⟩,
    ⟨some (index + 2), "member_access_expression", some "expression", start, start + 14, true,
      false⟩,
    ⟨some (index + 2), "identifier", some "name", start + 15, start + 19, true, false⟩]

/-- The rows of the unit. -/
def sampleRows : List Row :=
  ⟨none, "compilation_unit", none, 0, 45, true, false⟩ ::
    sampleStatement 1 0 ++ sampleStatement 6 23

/-- The tree of the unit. -/
def sampleRoot : Tree :=
  (Tree.ofRows? sampleSource sampleRows).get (by decide +kernel)

theorem ofRows?_sampleRows : Tree.ofRows? sampleSource sampleRows = some sampleRoot :=
  (Option.some_get _).symm

/-- The scanner that knows the types of its registry only. -/
def sampleScanner : Scanner :=
  Scanner.make sampleAnalyzer none

/-- Of two flagged calls on one line the scan reports the left one. -/
theorem Scanner.scan_total_ordered_leftmost_sampleRoot :
    sampleRoot.kind ≠ .globalStatement ∧
      ((preorderRows sampleRows).Pairwise fun left right => left.start ≤ right.start) ∧
      sampleScanner.scan "Sample.cs" sampleRoot =
        .ok [⟨.appOnly, ⟨"Sample.cs", 0, 0, some 0, some 21, true⟩, ["Sample.Counter"]⟩] := by
  have rooted : sampleRoot.kind ≠ .globalStatement := by decide +kernel
  have inOrder : (preorderRows sampleRows).Pairwise fun left right => left.start ≤ right.start := by
    decide +kernel
  refine ⟨rooted, inOrder, ?_⟩
  rcases scan_total_ordered_leftmost sampleScanner "Sample.cs" rooted with
    ⟨findings, scanned, -, -, -, ordered⟩
  -- The rows are in order, so the findings are those of the nodes as they come.
  have emitted := (ordered sampleSource sampleRows ofRows?_sampleRows inOrder).1
  have evaluated : (sampleScanner.analyzer.analyze .csharp
      (sampleScanner.host "Sample.cs" sampleRoot) (candidates sampleRoot)).toOption =
        some [⟨.appOnly, ⟨"Sample.cs", 0, 0, some 0, some 21, true⟩, ["Sample.Counter"]⟩] := by
    decide +kernel
  rw [emitted] at evaluated
  cases evaluated
  exact scanned

end WinrtLint.Source
