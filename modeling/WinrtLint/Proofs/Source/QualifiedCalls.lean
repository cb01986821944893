import WinrtLint.Proofs.Catalog.Inferred
import WinrtLint.Proofs.Source.Names
import WinrtLint.Proofs.Source.ScanOrder

/-!
# Calls of listed methods by their qualified name

A call `Type.Method(…)` in a unit binds to the listed type when nothing comes in
between: no alias and no value for the first identifier of the name, no
declared type of that name, and no type of that name in a namespace around the
call or, for a single identifier, in a namespace that is opened.  The library
types are those inferred from the registry, which has the type under this very
name, so the call is a hit.  The values around every call of a source can be
gathered, since a parser gives no top-level statement for a unit
(`Grammar.ParsesUnits`); so the scan comes to its end, and the line of the call
has a finding.
-/

namespace WinrtLint.Source

namespace DottedName

/-- A plain name neither begins nor ends with a dot, so the inferred catalog has the type of a
listed key if the type is one. -/
theorem exists_inferred
    {registry : Registry}
    {type method : String}
    (dotted : isDotted type.toList = true)
    (named : method ≠ "")
    (dotFree : '.' ∉ method.toList)
    (listed : registry.contains (memberKey type method) = true) :
    ∃ entry, (Catalog.ofRegistry registry).get? type = some entry ∧
      entry.qualifiedName = type := by
  apply Catalog.get?_ofRegistry
  · rintro rfl
    cases dotted
  · intro rest starts
    rw [starts, ← List.nil_append ('.' :: rest), isDotted_append] at dotted
    cases dotted
  · intro front ends
    rw [ends, isDotted_append, Bool.and_eq_true] at dotted
    cases dotted.2
  · exact named
  · exact dotFree
  · exact listed

end DottedName

/-! ## Below an invocation -/

namespace Site

/-- The target of an invocation sees the values that the invocation sees. -/
theorem valueNames_of_invocation
    {site child : Site}
    (invocation : site.node.kind = .invocation)
    (member : child ∈ site.children) :
    child.valueNames = site.valueNames := by
  rcases List.mem_map.1 member with ⟨entry, -, rfl⟩
  have scope : Source.localScope? (entry.2 :: site.address) (site.node :: site.ancestors) =
      Source.localScope? site.address site.ancestors := by
    simp [Source.localScope?, invocation, Kind.isMemberScope]
  have names : (site.node :: site.ancestors).filter (·.kind.declaresType) =
      site.ancestors.filter (·.kind.declaresType) :=
    List.filter_cons_of_neg (by rw [invocation]; exact Bool.false_ne_true)
  simp only [valueNames, localScope?, memberNames, scope, names]

end Site

theorem Declarations.namespacesAt_of_invocation
    (declarations : Declarations)
    {node : Tree}
    (invocation : node.kind = .invocation)
    (ancestors : List Tree) :
    declarations.namespacesAt (node :: ancestors) = declarations.namespacesAt ancestors := by
  have openers : (node :: ancestors).filter (·.kind.opensNamespace) =
      ancestors.filter (·.kind.opensNamespace) :=
    List.filter_cons_of_neg (by rw [invocation]; exact Bool.false_ne_true)
  simp only [namespacesAt, enclosingNamespaces, openers]

/-! ## Binding -/

/-- A site holds, in literal source, a call of a method through a receiver that spells a type. -/
structure Site.IsQualifiedCall (site : Site) (type method : String) : Prop where
  invocation : site.node.kind = .invocation
  literal : site.node.label.isMissing = false
  target : ∃ access ∈ site.childIn? .function,
    access.node.kind = .memberAccess ∧
    (∃ receiver ∈ access.node.childIn? .expression,
      DottedName.ofText? receiver.text = some type) ∧
    (access.node.childIn? .name).bind Tree.simpleName? = some method

instance (site : Site) (type method : String) :
    Decidable (site.IsQualifiedCall type method) :=
  decidable_of_iff (_ ∧ _ ∧ _)
    ⟨fun ⟨invocation, literal, target⟩ => ⟨invocation, literal, target⟩,
      fun call => ⟨call.invocation, call.literal, call.target⟩⟩

namespace Model

/-- Nothing at a site comes before the library type of a name. -/
structure Unshadowed (model : Model) (site : Site) (type : String) : Prop where
  no_alias : model.declarations.aliases.get? (DottedName.head type) = none
  no_value : ∃ values ∈ site.valueNames.toOption, values.contains (DottedName.head type) = false
  not_declared : model.declarations.types.get? type = none
  not_enclosed : ∀ space ∈ model.declarations.namespacesAt site.ancestors,
    model.Lacks (DottedName.under space type)
  not_imported : '.' ∉ type.toList → ∀ space ∈ model.declarations.usings,
    model.Lacks (DottedName.under space type)

instance (model : Model) (site : Site) (type : String) :
    Decidable (model.Unshadowed site type) :=
  decidable_of_iff (_ ∧ _ ∧ _ ∧ _ ∧ _)
    ⟨fun ⟨unaliased, noValue, undeclared, enclosed, imported⟩ =>
        ⟨unaliased, noValue, undeclared, enclosed, imported⟩,
      fun unshadowed => ⟨unshadowed.no_alias, unshadowed.no_value, unshadowed.not_declared,
        unshadowed.not_enclosed, unshadowed.not_imported⟩⟩

variable {model : Model} {site : Site} {type method : String}

/-- A name that nothing comes before is taken as fully qualified. -/
theorem Unshadowed.resolveName
    (unshadowed : model.Unshadowed site type)
    {ancestors : List Tree}
    (spaces : model.declarations.namespacesAt ancestors =
      model.declarations.namespacesAt site.ancestors) :
    model.resolveName type ancestors = model.lookup type := by
  apply Unclaimed.resolveName
  refine ⟨unshadowed.no_alias, ?_, unshadowed.not_imported⟩
  rw [spaces]
  exact unshadowed.not_enclosed

/-- The method that the target of a qualified call binds to. -/
theorem invocationSymbol_of_qualifiedCall
    (call : site.IsQualifiedCall type method)
    (unshadowed : model.Unshadowed site type)
    {entry : CatalogType}
    (known : model.catalog.get? type = some entry) :
    ∃ access, site.childIn? .function = some access ∧
      model.invocationSymbol access = .ok (some (staticMethod entry method)) := by
  rcases call.target with ⟨access, child, isAccess, ⟨receiver, receiving, spelled⟩, named⟩
  have below := Site.mem_children_of_childIn? child
  have bound : model.lookup type = some ⟨entry, false⟩ := by
    rw [lookup, unshadowed.not_declared, known]
    rfl
  have spaces : model.declarations.namespacesAt access.ancestors =
      model.declarations.namespacesAt site.ancestors := by
    rw [Site.ancestors_of_mem_children below]
    exact model.declarations.namespacesAt_of_invocation call.invocation site.ancestors
  have reached : model.accessedMethod receiver.text method access.ancestors =
      some (staticMethod entry method) := by
    rw [accessedMethod, resolve, spelled, Option.bind_some, unshadowed.resolveName spaces, bound]
    rfl
  refine ⟨access, child, ?_⟩
  rw [invocationSymbol_access isAccess receiving named]
  split
  · rw [reached]
  · rename_i first candidate
    -- A receiver that could stand for a value begins as the type does.
    have first_eq : first = DottedName.head type := by
      rw [valueCandidate?, spelled] at candidate
      split at candidate
      · cases candidate
      · cases candidate
        rfl
    rcases unshadowed.no_value with ⟨values, gathered, absent⟩
    have same : site.valueNames = .ok values := by
      cases outcome : site.valueNames <;> rw [outcome] at gathered <;> cases gathered
      rfl
    rw [Site.valueNames_of_invocation call.invocation below, same, Except.map, first_eq, absent,
      reached]
    rfl

end Model

/-! ## Reporting -/

namespace Scanner

theorem flags_of_qualifiedCall
    {analyzer : Analyzer}
    {root : Tree}
    {site : Site}
    {type method : String}
    (asked : Strategy.member ∈ analyzer.strategies)
    (path : String)
    (call : site.IsQualifiedCall type method)
    (unshadowed : (Model.ofTree (.ofRegistry analyzer.registry) root).Unshadowed site type)
    (named : method ≠ "")
    (dotFree : '.' ∉ method.toList)
    (listed : analyzer.registry.contains (memberKey type method) = true) :
    (make analyzer none).Flags path root site := by
  have dotted : DottedName.isDotted type.toList = true := by
    rcases call.target with ⟨access, -, -, ⟨receiver, -, spelled⟩, -⟩
    exact DottedName.isDotted_of_ofText? spelled
  rcases DottedName.exists_inferred dotted named dotFree listed with ⟨entry, known, shown⟩
  rcases Model.invocationSymbol_of_qualifiedCall call unshadowed known with
    ⟨access, child, bound⟩
  let host := (make analyzer none).host path root
  have invoked : Family.csharp.invocationTarget host ⟨site, none⟩ =
      some ⟨access, some .expression⟩ := by
    show ((site.childIn? .function).map fun below => (⟨below, some .expression⟩ : HostSite)) = _
    rw [child]
    rfl
  have answered : host.answer ⟨access, some .expression⟩ =
      .symbol (.method (Model.staticMethod entry method)) := by
    show Model.answer (Model.ofTree (.ofRegistry analyzer.registry) root) _ = _
    simp only [Model.answer, Model.symbolAt, if_pos, bound]
    rfl
  have category : Family.csharp.category? (host.kind ⟨site, none⟩) = some .invocation := by
    show Family.csharp.category? (site.node.kind.hostKind?.getD "") = _
    rw [call.invocation]
    rfl
  have literal : (host.location ⟨site, none⟩).inSource = true := by
    show (!site.node.label.isMissing) = true
    rw [call.literal]
    rfl
  rw [← shown] at listed
  exact ⟨call.literal, by simp [call.invocation], _, .invocation, category, literal,
    Analyzer.matches_of_static asked invoked answered listed⟩

end Scanner

/-- The root of a source is a unit, or else what could not be read: a top-level statement is never
the root. -/
def Grammar.ParsesUnits (grammar : Grammar) : Prop :=
  ∀ source root, Tree.ofRows? source (grammar source) = some root →
    root.kind ≠ .globalStatement

namespace Scanner

/-- A call of a listed method by its qualified name is reported on its line. -/
theorem scanSource_reports_qualifiedCall
    (analyzer : Analyzer)
    (asked : Strategy.member ∈ analyzer.strategies)
    (grammar : Grammar)
    (units : grammar.ParsesUnits)
    (path : String)
    {source : Bytes}
    {root : Tree}
    (parsed : Tree.ofRows? source (grammar source) = some root)
    {site : Site}
    (inside : site ∈ root.sites)
    {type method : String}
    (call : site.IsQualifiedCall type method)
    (named : method ≠ "")
    (dotFree : '.' ∉ method.toList)
    (listed : analyzer.registry.contains (memberKey type method) = true)
    (unshadowed : (Model.ofTree (.ofRegistry analyzer.registry) root).Unshadowed site type) :
    ∃ findings,
      (make analyzer none).scanSource grammar path source = .ok findings ∧
      ∃ finding ∈ findings, finding.location.startLine = site.node.label.start.line := by
  rw [scanSource, parsed]
  rcases (make analyzer none).scan_cases path root with ⟨-, scanned⟩ | ⟨isStatement, -⟩
  · have flags := flags_of_qualifiedCall asked path call unshadowed named dotFree listed
    have line := mem_lines_found.2 ⟨site, inside, flags, rfl⟩
    rcases List.mem_map.1 line with ⟨finding, member, sameLine⟩
    exact ⟨_, scanned, finding, List.mem_mergeSort.2 member, sameLine⟩
  · exact absurd isStatement (units source root parsed)

/-- A grammar that has the tree of one source. -/
def sampleGrammar : Grammar :=
  .ofTrees [(sampleSource, sampleRows)]

theorem sampleGrammar_sampleSource : sampleGrammar sampleSource = sampleRows := by
  rw [sampleGrammar, Grammar.ofTrees, List.lookup_cons_self]
  rfl

theorem parsesUnits_sampleGrammar : sampleGrammar.ParsesUnits := by
  intro source root parsed
  by_cases same : source = sampleSource
  · rw [same, sampleGrammar_sampleSource, ofRows?_sampleRows] at parsed
    cases parsed
    decide +kernel
  · have unknown : sampleGrammar source = [] := by
      simp [sampleGrammar, Grammar.ofTrees, List.lookup_cons, beq_false_of_ne same]
    rw [unknown] at parsed
    cases parsed

/-- The second of two listed calls on a line shares the finding of the first. -/
theorem scanSource_reports_qualifiedCall_sampleRoot :
    ∃ site ∈ sampleRoot.sites,
      site.IsQualifiedCall "Sample.Counter" "Read" ∧
      sampleRegistry.contains (memberKey "Sample.Counter" "Read") = true ∧
      (Model.ofTree (.ofRegistry sampleRegistry) sampleRoot).Unshadowed site "Sample.Counter" ∧
      site.node.label.start = ⟨0, 23⟩ ∧
      ∃ findings,
        sampleScanner.scanSource sampleGrammar "Sample.cs" sampleSource = .ok findings ∧
        ∃ finding ∈ findings, finding.location.startLine = 0 := by
  let site := sampleRoot.sites.get ⟨7, by decide +kernel⟩
  have inside : site ∈ sampleRoot.sites := List.get_mem _ _
  have call : site.IsQualifiedCall "Sample.Counter" "Read" := by decide +kernel
  have listed : sampleRegistry.contains (memberKey "Sample.Counter" "Read") = true := by
    decide +kernel
  have unshadowed : (Model.ofTree (.ofRegistry sampleRegistry) sampleRoot).Unshadowed site
      "Sample.Counter" := by
    decide +kernel
  have place : site.node.label.start = ⟨0, 23⟩ := by decide +kernel
  have parsed : Tree.ofRows? sampleSource (sampleGrammar sampleSource) = some sampleRoot := by
    rw [sampleGrammar_sampleSource, ofRows?_sampleRows]
  have reported := scanSource_reports_qualifiedCall sampleAnalyzer (by decide) sampleGrammar
    parsesUnits_sampleGrammar "Sample.cs" parsed inside call (by decide) (by decide) listed
    unshadowed
  rw [place] at reported
  exact ⟨site, inside, call, listed, unshadowed, place, reported⟩

end Scanner

end WinrtLint.Source
