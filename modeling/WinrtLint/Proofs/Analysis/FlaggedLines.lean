import Mathlib.Data.Set.Lattice
import WinrtLint.Proofs.Analysis.FirstHits
import WinrtLint.Proofs.Denylist.Merging

/-!
# Flagged lines

Which finding stands for a line depends on the order of the nodes and of the
strategies, since the first match wins.  Whether a line has a finding does not:
a line is flagged when one of the strategies finds something at one of the nodes
on it (`mem_flaggedLines`).  What a strategy finds with two registries united is
what it finds with one of them (`Strategy.flags_unites`), so the flagged lines
are united with the registries, with the strategies and with the nodes
(`flaggedLines_unite`).
-/

namespace WinrtLint

variable {Node : Type}

namespace Strategy

/-- A strategy finds something at a node that has a category and stands in literal source. -/
def Flags
    (strategy : Strategy)
    (registry : Registry)
    (family : Family)
    (host : Host Node)
    (node : Node) :
    Prop :=
  ∃ category name,
    family.category? (host.kind node) = some category ∧
    (host.location node).inSource = true ∧
    strategy.find registry family host node category = .ok (some name)

variable {left right whole : Registry}

/-- The verdict with two registries united is that of the first one which has a verdict. -/
theorem verdict_unites
    (unites : Registry.Unites left right whole)
    (symbol : Option Symbol)
    (strategy : Strategy)
    (category : Category) :
    strategy.verdict whole symbol category =
      (strategy.verdict left symbol category).or (strategy.verdict right symbol category) := by
  have choice : ∀ (first second : Bool) (name : String),
      (if (first || second) = true then some name else none) =
        (if first = true then some name else none).or
          (if second = true then some name else none) := by
    intro first second name
    cases first <;> cases second <;> rfl
  cases strategy with
  | member =>
      cases category with
      | invocation =>
          simp only [verdict]
          cases symbol.bind invokedMember? with
          | none => rfl
          | some member =>
              simp only [Option.bind_some, unites.contains]
              exact choice _ _ _
      | _ =>
          simp only [verdict]
          cases symbol with
          | none => rfl
          | some symbol =>
              simp only [Option.bind_some, unites.contains]
              exact choice _ _ _
  | typeReference =>
      simp only [verdict]
      cases symbol.bind sealedClass? with
      | none => rfl
      | some name =>
          simp only [Option.bind_some, unites.containsType]
          exact choice _ _ _

/-- A strategy finds something with two registries united where it does with one of them. -/
theorem find_unites
    (unites : Registry.Unites left right whole)
    (strategy : Strategy)
    (family : Family)
    (host : Host Node)
    (node : Node)
    (category : Category) :
    (∃ name, strategy.find whole family host node category = .ok (some name)) ↔
      (∃ name, strategy.find left family host node category = .ok (some name)) ∨
        ∃ name, strategy.find right family host node category = .ok (some name) := by
  simp only [find_eq]
  cases strategy.asks category with
  | false => simp
  | true =>
      cases host.resolve (part family host node category) with
      | error failure => simp [Except.map]
      | ok symbol =>
          simp only [if_true, Except.map, Except.ok.injEq, verdict_unites unites,
            ← Option.isSome_iff_exists, Option.isSome_or, Bool.or_eq_true]

theorem flags_unites
    (unites : Registry.Unites left right whole)
    (strategy : Strategy)
    (family : Family)
    (host : Host Node)
    (node : Node) :
    strategy.Flags whole family host node ↔
      strategy.Flags left family host node ∨ strategy.Flags right family host node := by
  simp only [Flags, exists_and_left, find_unites unites]
  rw [← exists_or]
  simp only [← and_or_left]

end Strategy

namespace Analyzer

variable {analyzer : Analyzer} {family : Family} {host : Host Node}

theorem find_eq_none_of_firstMatch
    {node : Node}
    {category : Category}
    {strategies : List Strategy}
    (unmatched : analyzer.firstMatch family host node category strategies = .ok none) :
    ∀ strategy ∈ strategies,
      strategy.find analyzer.registry family host node category = .ok none := by
  induction strategies with
  | nil => exact fun _ asked => absurd asked List.not_mem_nil
  | cons first rest induction =>
      rw [firstMatch] at unmatched
      rcases Outcome.bind_eq_ok.1 unmatched with ⟨found, outcome, after⟩
      cases found with
      | some name => cases after
      | none => exact List.forall_mem_cons.2 ⟨outcome, induction after⟩

/-- A node is a hit, under whatever name, when one of the strategies finds something at it. -/
theorem exists_hit_iff (answers : host.Answers) {node : Node} :
    (∃ name, analyzer.Hit family host node name) ↔
      ∃ strategy ∈ analyzer.strategies, strategy.Flags analyzer.registry family host node := by
  constructor
  · rintro ⟨name, category, known, literal, before, strategy, after, split, -, found⟩
    exact ⟨strategy, by simp [split], category, name, known, literal, found⟩
  · rintro ⟨strategy, asked, category, name, known, literal, found⟩
    -- An earlier strategy may match first, and then the node is a hit all the same.
    cases outcome : analyzer.firstMatch family host node category analyzer.strategies with
    | error failure => exact absurd ⟨category, outcome⟩ (not_breaks answers node failure)
    | ok result =>
        cases result with
        | none =>
            have unmatched := find_eq_none_of_firstMatch outcome strategy asked
            rw [found] at unmatched
            cases unmatched
        | some first =>
            exact ⟨first, category, known, literal, firstMatch_eq_some.1 outcome⟩

/-! ## The lines of an analysis -/

/-- The lines on which the analysis of a unit reports a finding. -/
def flaggedLines
    (analyzer : Analyzer)
    (family : Family)
    (host : Host Node)
    (nodes : List Node) :
    Set Int :=
  {line | ∃ findings, analyzer.analyze family host nodes = .ok findings ∧
    line ∈ findings.map (·.location.startLine)}

theorem flaggedLines_of_analyze
    {nodes : List Node}
    {findings : List Diagnostic}
    (done : analyzer.analyze family host nodes = .ok findings) :
    analyzer.flaggedLines family host nodes =
      {line | line ∈ findings.map (·.location.startLine)} := by
  simp only [flaggedLines, done, Except.ok.injEq, exists_eq_left']

/-- A line is flagged when a strategy finds something at a node on it. -/
theorem mem_flaggedLines
    (answers : host.Answers)
    {nodes : List Node}
    {line : Int} :
    line ∈ analyzer.flaggedLines family host nodes ↔
      ∃ strategy ∈ analyzer.strategies, ∃ node ∈ nodes,
        strategy.Flags analyzer.registry family host node ∧
          (host.location node).startLine = line := by
  rw [flaggedLines_of_analyze (analyze_of_answers answers nodes), Set.mem_ofPred_eq,
    mem_lines_findings]
  simp only [exists_and_right, exists_hit_iff answers]
  constructor
  · rintro ⟨node, member, ⟨strategy, asked, flags⟩, here⟩
    exact ⟨strategy, asked, node, member, flags, here⟩
  · rintro ⟨strategy, asked, node, member, flags, here⟩
    exact ⟨node, member, ⟨strategy, asked, flags⟩, here⟩

section Unions

variable {rule : Rule} {registry : Registry} {strategies : List Strategy}

theorem flaggedLines_unites
    (answers : host.Answers)
    {left right whole : Registry}
    (unites : Registry.Unites left right whole)
    (nodes : List Node) :
    flaggedLines ⟨whole, strategies, rule⟩ family host nodes =
      flaggedLines ⟨left, strategies, rule⟩ family host nodes ∪
        flaggedLines ⟨right, strategies, rule⟩ family host nodes := by
  ext line
  simp only [Set.mem_union, mem_flaggedLines answers, Strategy.flags_unites unites,
    or_and_right, and_or_left, exists_or]

theorem flaggedLines_strategies (answers : host.Answers) (nodes : List Node) :
    flaggedLines ⟨registry, strategies, rule⟩ family host nodes =
      ⋃ strategy ∈ strategies, flaggedLines ⟨registry, [strategy], rule⟩ family host nodes := by
  ext line
  simp only [Set.mem_iUnion, mem_flaggedLines answers, List.mem_singleton, exists_eq_left,
    exists_prop]

theorem flaggedLines_append
    (answers : host.Answers)
    (before after : List Node) :
    flaggedLines ⟨registry, strategies, rule⟩ family host (before ++ after) =
      flaggedLines ⟨registry, strategies, rule⟩ family host before ∪
        flaggedLines ⟨registry, strategies, rule⟩ family host after := by
  ext line
  simp only [Set.mem_union, mem_flaggedLines answers, List.mem_append, or_and_right, and_or_left,
    exists_or]

/-- Neither order nor repetition of strategies and nodes counts. -/
theorem flaggedLines_congr
    (answers : host.Answers)
    {others : List Strategy}
    {nodes rearranged : List Node}
    (sameStrategies : ∀ strategy, strategy ∈ strategies ↔ strategy ∈ others)
    (sameNodes : ∀ node, node ∈ nodes ↔ node ∈ rearranged) :
    flaggedLines ⟨registry, strategies, rule⟩ family host nodes =
      flaggedLines ⟨registry, others, rule⟩ family host rearranged := by
  ext line
  simp only [mem_flaggedLines answers, sameStrategies, sameNodes]

end Unions

/--
The flagged lines of a unit do not depend on order, and they are united where
registries are merged, strategies are tried together or nodes are put one behind
the other.  So a longer denylist never hides a line.
-/
theorem flaggedLines_unite
    (family : Family)
    {host : Host Node}
    (answers : host.Answers)
    (rule : Rule) :
    (∀ registry strategies nodes, ∃ findings,
      analyze ⟨registry, strategies, rule⟩ family host nodes = .ok findings ∧
      flaggedLines ⟨registry, strategies, rule⟩ family host nodes =
        {line | line ∈ findings.map (·.location.startLine)}) ∧
    (∀ registry entries added, Registry.ofEntries entries = .ok added →
      ∃ merged, registry.merge entries = .ok merged ∧
        ∀ strategies nodes,
          flaggedLines ⟨merged, strategies, rule⟩ family host nodes =
            flaggedLines ⟨registry, strategies, rule⟩ family host nodes ∪
              flaggedLines ⟨added, strategies, rule⟩ family host nodes) ∧
    (∀ registry strategies nodes,
      flaggedLines ⟨registry, strategies, rule⟩ family host nodes =
        ⋃ strategy ∈ strategies,
          flaggedLines ⟨registry, [strategy], rule⟩ family host nodes) ∧
    (∀ registry strategies before after,
      flaggedLines ⟨registry, strategies, rule⟩ family host (before ++ after) =
        flaggedLines ⟨registry, strategies, rule⟩ family host before ∪
          flaggedLines ⟨registry, strategies, rule⟩ family host after) ∧
    ∀ registry strategies others nodes rearranged,
      (∀ strategy, strategy ∈ strategies ↔ strategy ∈ others) →
      (∀ node, node ∈ nodes ↔ node ∈ rearranged) →
      flaggedLines ⟨registry, strategies, rule⟩ family host nodes =
        flaggedLines ⟨registry, others, rule⟩ family host rearranged := by
  refine ⟨?_, ?_, ?_, ?_, ?_⟩
  · intro registry strategies nodes
    exact ⟨_, analyze_of_answers answers nodes,
      flaggedLines_of_analyze (analyze_of_answers answers nodes)⟩
  · intro registry entries added accepted
    rcases Registry.exists_merge registry accepted with ⟨merged, built, unites⟩
    exact ⟨merged, built, fun strategies nodes => flaggedLines_unites answers unites nodes⟩
  · exact fun registry strategies nodes => flaggedLines_strategies answers nodes
  · exact fun registry strategies before after => flaggedLines_append answers before after
  · exact fun registry strategies others nodes rearranged sameStrategies sameNodes =>
      flaggedLines_congr answers sameStrategies sameNodes

/-- A registry with another entry for the type of the sample registry. -/
def resetRegistry : Registry where
  keys := NameSet.singleton "Sample.Counter.Reset"
  members := [⟨"Sample.Counter", "Reset", .staticMethod⟩]
  parsed := rfl
  types := NameSet.singleton "Sample.Counter"
  types_eq := rfl

/-- A line that only the added entry forbids is flagged beside the one that was flagged before. -/
theorem flaggedLines_unite_sampleNodes :
    sampleHost.Answers ∧
      ∃ merged, sampleRegistry.merge ["Sample.Counter.Reset"] = .ok merged ∧
        flaggedLines ⟨merged, Strategy.all, .appOnly⟩ .csharp sampleHost
          [sampleNode 7 4 "Read", sampleNode 3 0 "Reset"] = {3, 7} := by
  refine ⟨answers_sampleHost, ?_⟩
  rcases flaggedLines_unite .csharp answers_sampleHost .appOnly with ⟨-, merges, -, -, -⟩
  rcases merges sampleRegistry ["Sample.Counter.Reset"] resetRegistry rfl with
    ⟨merged, built, united⟩
  have before : analyze ⟨sampleRegistry, Strategy.all, .appOnly⟩ .csharp sampleHost
      [sampleNode 7 4 "Read", sampleNode 3 0 "Reset"] = .ok [sampleFinding 7 4] := rfl
  have more : analyze ⟨resetRegistry, Strategy.all, .appOnly⟩ .csharp sampleHost
      [sampleNode 7 4 "Read", sampleNode 3 0 "Reset"] = .ok [sampleFinding 3 0] := rfl
  refine ⟨merged, built, ?_⟩
  rw [united, flaggedLines_of_analyze before, flaggedLines_of_analyze more]
  ext line
  simp [sampleFinding]

end Analyzer

end WinrtLint
