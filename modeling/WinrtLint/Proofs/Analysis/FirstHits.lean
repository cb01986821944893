import Mathlib.Data.List.Forall2
import Mathlib.Data.List.Induction
import WinrtLint.Analysis.Session
import WinrtLint.Proofs.Outcome

/-!
# The first hit on every line

A node is a hit when its kind has a category, its location is literal source
and one of the strategies matches it; the first strategy that does gives the
name.  What a unit reports is told by its hits alone: the first hit on each
line, in the order of the nodes (`isReport_findings`).

The analysis does not match a node on a line that has a finding.  The short cut
is sound because a unit only ever holds the findings of hits that it was
given, so such a node would add nothing (`visit_cases`).  For the same reason
only a node that would have been matched can break the analysis off
(`visitAll_cases`).
-/

namespace WinrtLint

open WinrtLint.Outcome

variable {Node : Type}

/-- A host gives an answer to every question, if only that it cannot bind the node. -/
def Host.Answers (host : Host Node) : Prop :=
  ∀ node failure, host.answer node ≠ .failed failure

theorem Host.resolve_eq_error
    {host : Host Node}
    {node : Option Node}
    {failure : HostFailure} :
    host.resolve node = .error failure ↔
      ∃ target, node = some target ∧ host.answer target = .failed failure := by
  cases node with
  | none => simp [Host.resolve]
  | some node =>
      rw [Host.resolve]
      cases outcome : host.answer node <;> simp [outcome]

namespace Strategy

/-- The part of a node of a category on which it is judged. -/
def part (family : Family) (host : Host Node) (node : Node) :
    Category → Option Node
  | .invocation => family.invocationTarget host node
  | category => family.typeClause host node category

/-- Whether a strategy asks for the symbol of the part on which a node is judged. -/
def asks : Strategy → Category → Bool
  | .member, .invocation => true
  | .member, .objectCreation => true
  | .member, _ => false
  | .typeReference, .invocation => false
  | .typeReference, _ => true

/-- What a strategy makes of the symbol for which it asks. -/
def verdict (registry : Registry) (symbol : Option Symbol) :
    Strategy → Category → Option String
  | .member, .invocation =>
      (symbol.bind invokedMember?).bind fun member =>
        if registry.contains member.2 then some member.1 else none
  | .member, _ =>
      symbol.bind fun symbol =>
        if registry.contains (memberKey symbol.display constructorName) then
          some symbol.display
        else none
  | .typeReference, _ =>
      (symbol.bind sealedClass?).bind fun name =>
        if registry.containsType name then some name else none

/-- A strategy asks for one symbol, if any, and its verdict rests on that alone. -/
theorem find_eq
    (strategy : Strategy)
    (registry : Registry)
    (family : Family)
    (host : Host Node)
    (node : Node)
    (category : Category) :
    strategy.find registry family host node category =
      if strategy.asks category then
        (host.resolve (part family host node category)).map fun symbol =>
          strategy.verdict registry symbol category
      else .ok none := by
  cases strategy with
  | member =>
      cases category with
      | invocation =>
          rw [find, matchMember, asks, if_pos rfl, part]
          cases host.resolve (family.invocationTarget host node) with
          | error failure => rfl
          | ok symbol =>
              simp only [ok_bind, Except.map, verdict]
              cases symbol.bind invokedMember? <;> rfl
      | objectCreation =>
          simp only [find, matchMember, asks, if_true, part]
          cases host.resolve (family.typeClause host node .objectCreation) with
          | error failure => rfl
          | ok symbol => cases symbol <;> rfl
      | variableDeclaration => rfl
      | cast => rfl
  | typeReference =>
      by_cases invoked : category = .invocation
      · subst invoked
        rfl
      · have asked : Strategy.typeReference.asks category = true := by
          cases category with
          | invocation => exact absurd rfl invoked
          | _ => rfl
        rw [find, matchTypeReference, asked, if_pos rfl, part]
        · cases host.resolve (family.typeClause host node category) with
          | error failure => rfl
          | ok symbol =>
              simp only [ok_bind, Except.map, verdict]
              cases symbol.bind sealedClass? <;> rfl
        · exact invoked
        · exact invoked

/-- A strategy breaks off only where the host breaks down over the part on which the node is
judged. -/
theorem find_eq_error
    {strategy : Strategy}
    {registry : Registry}
    {family : Family}
    {host : Host Node}
    {node : Node}
    {category : Category}
    {failure : HostFailure}
    (failed : strategy.find registry family host node category = .error failure) :
    ∃ target, part family host node category = some target ∧
      host.answer target = .failed failure := by
  rw [find_eq] at failed
  split at failed
  · apply Host.resolve_eq_error.1
    cases outcome : host.resolve (part family host node category) with
    | error other =>
        rw [outcome] at failed
        cases failed
        rfl
    | ok symbol =>
        rw [outcome] at failed
        cases failed
  · cases failed

end Strategy

namespace Analyzer

/-! ## Hits -/

section Hits

variable (analyzer : Analyzer) (family : Family) (host : Host Node)

/-- The first of the strategies that matches a node gives a name. -/
def Matches (node : Node) (category : Category) (name : String) : Prop :=
  ∃ before strategy after,
    analyzer.strategies = before ++ strategy :: after ∧
    (∀ earlier ∈ before,
      earlier.find analyzer.registry family host node category = .ok none) ∧
    strategy.find analyzer.registry family host node category = .ok (some name)

/-- A node of a category that stands in literal source is matched under a name. -/
def Hit (node : Node) (name : String) : Prop :=
  ∃ category,
    family.category? (host.kind node) = some category ∧
    (host.location node).inSource = true ∧
    analyzer.Matches family host node category name

/-- The name under which a node is a hit. -/
def hit? (node : Node) : Option String :=
  match family.category? (host.kind node) with
  | none => none
  | some category =>
      if (host.location node).inSource then
        match analyzer.firstMatch family host node category analyzer.strategies with
        | .ok found => found
        | .error _ => none
      else none

/-- The finding that a node gives rise to on its own. -/
def finding? (node : Node) : Option Diagnostic :=
  (analyzer.hit? family host node).map fun name =>
    ⟨analyzer.rule, host.location node, [name]⟩

/-- The finding that a node adds to those that are there already. -/
def addition? (found : List Diagnostic) (node : Node) : Option Diagnostic :=
  (analyzer.finding? family host node).filter fun finding =>
    !hasLine found finding.location.startLine

/-- The findings of nodes delivered one by one. -/
def findings (nodes : List Node) : List Diagnostic :=
  nodes.foldl
    (fun found node => found ++ (analyzer.addition? family host found node).toList) []

/-- The node at a position is the first hit on its line, and the finding is made of it. -/
def FirstHit
    (nodes : List Node)
    (position : Nat)
    (finding : Diagnostic) :
    Prop :=
  ∃ node name,
    nodes[position]? = some node ∧
    analyzer.Hit family host node name ∧
    finding = ⟨analyzer.rule, host.location node, [name]⟩ ∧
    ∀ other ∈ nodes.take position, ∀ otherName,
      analyzer.Hit family host other otherName →
      (host.location other).startLine ≠ (host.location node).startLine

/--
Findings report the nodes of a unit: there is exactly one for each line with a
hit, and they are those of the first hits, in the order of the nodes.
-/
structure IsReport (nodes : List Node) (findings : List Diagnostic) : Prop where
  lines_nodup : (findings.map (·.location.startLine)).Nodup
  mem_lines : ∀ line, line ∈ findings.map (·.location.startLine) ↔
    ∃ node ∈ nodes, ∃ name,
      analyzer.Hit family host node name ∧ (host.location node).startLine = line
  first_hits : ∃ positions : List Nat,
    positions.Pairwise (· < ·) ∧
    (∀ position, position ∈ positions ↔
      ∃ finding, analyzer.FirstHit family host nodes position finding) ∧
    List.Forall₂ (analyzer.FirstHit family host nodes) positions findings

end Hits

section

variable {analyzer : Analyzer} {family : Family} {host : Host Node}

theorem firstMatch_eq_some
    {node : Node}
    {category : Category}
    {name : String}
    {strategies : List Strategy} :
    analyzer.firstMatch family host node category strategies = .ok (some name) ↔
      ∃ before strategy after,
        strategies = before ++ strategy :: after ∧
        (∀ earlier ∈ before,
          earlier.find analyzer.registry family host node category = .ok none) ∧
        strategy.find analyzer.registry family host node category = .ok (some name) := by
  induction strategies with
  | nil => simp [firstMatch]
  | cons first rest induction =>
      rw [firstMatch]
      constructor
      · intro found
        cases outcome : first.find analyzer.registry family host node category with
        | error failure => simp [outcome] at found
        | ok result =>
            cases result with
            | some other =>
                rw [outcome] at found
                cases found
                exact ⟨[], first, rest, rfl, by simp, outcome⟩
            | none =>
                rw [outcome] at found
                rcases induction.1 found with ⟨before, strategy, after, rfl, none, some⟩
                refine ⟨first :: before, strategy, after, rfl, ?_, some⟩
                intro earlier member
                rcases List.mem_cons.1 member with rfl | later
                · exact outcome
                · exact none earlier later
      · rintro ⟨before, strategy, after, split, none, some⟩
        cases before with
        | nil =>
            cases split
            rw [some]
            rfl
        | cons earlier before =>
            cases split
            rw [none first List.mem_cons_self]
            apply induction.2
            exact ⟨before, strategy, after, rfl,
              fun other member => none other (List.mem_cons_of_mem _ member), some⟩

/-- A call that binds to a listed static method is matched, whatever else is tried before. -/
theorem matches_of_static
    {node target : Node}
    {owner : TypeSymbol}
    {method : String}
    (asked : Strategy.member ∈ analyzer.strategies)
    (invoked : family.invocationTarget host node = some target)
    (answered : host.answer target = .symbol (.method ⟨method, some owner, true⟩))
    (listed : analyzer.registry.contains (memberKey owner.display method) = true) :
    analyzer.Matches family host node .invocation owner.display := by
  have found : Strategy.member.find analyzer.registry family host node .invocation =
      .ok (some owner.display) := by
    rw [Strategy.find_eq, Strategy.part, invoked, Host.resolve, answered]
    simp [Strategy.asks, Strategy.verdict, Strategy.invokedMember?, listed, Except.map]
  rcases List.eq_append_cons_of_mem asked with ⟨before, after, split, first⟩
  refine ⟨before, .member, after, split, ?_, found⟩
  intro earlier inside
  cases earlier with
  | member => exact absurd inside first
  | typeReference => rfl

/-- A call is matched only where its target has a symbol. -/
theorem symbol_of_matches
    {node target : Node}
    {name : String}
    (invoked : family.invocationTarget host node = some target)
    (matched : analyzer.Matches family host node .invocation name) :
    ∃ symbol, host.answer target = .symbol symbol := by
  rcases matched with ⟨-, strategy, -, -, -, found⟩
  rw [Strategy.find_eq, Strategy.part, invoked, Host.resolve] at found
  cases strategy with
  | typeReference => cases found
  | member =>
      cases answered : host.answer target with
      | symbol symbol => exact ⟨symbol, rfl⟩
      | absent => rw [answered] at found; cases found
      | unresolved => rw [answered] at found; cases found
      | failed failure => rw [answered] at found; cases found

theorem hit?_eq_some {node : Node} {name : String} :
    analyzer.hit? family host node = some name ↔ analyzer.Hit family host node name := by
  rw [hit?, Hit]
  cases family.category? (host.kind node) with
  | none => simp
  | some category =>
      simp only [Option.some.injEq, exists_eq_left']
      rw [Matches, ← firstMatch_eq_some]
      by_cases literal : (host.location node).inSource = true
      · rw [if_pos literal]
        cases analyzer.firstMatch family host node category analyzer.strategies <;>
          simp [literal]
      · rw [if_neg literal]
        simp [literal]

theorem finding?_eq_some {node : Node} {finding : Diagnostic} :
    analyzer.finding? family host node = some finding ↔
      ∃ name, analyzer.Hit family host node name ∧
        finding = ⟨analyzer.rule, host.location node, [name]⟩ := by
  rw [finding?, Option.map_eq_some_iff]
  constructor
  · rintro ⟨name, hit, rfl⟩
    exact ⟨name, hit?_eq_some.1 hit, rfl⟩
  · rintro ⟨name, hit, rfl⟩
    exact ⟨name, hit?_eq_some.2 hit, rfl⟩

theorem addition?_of_finding?
    {node : Node}
    {finding : Diagnostic}
    (own : analyzer.finding? family host node = some finding)
    (found : List Diagnostic) :
    analyzer.addition? family host found node =
      if hasLine found finding.location.startLine then none else some finding := by
  rw [addition?, own, Option.filter_some]
  cases hasLine found finding.location.startLine <;> rfl

theorem addition?_eq_some
    {found : List Diagnostic}
    {node : Node}
    {finding : Diagnostic} :
    analyzer.addition? family host found node = some finding ↔
      analyzer.finding? family host node = some finding ∧
        hasLine found finding.location.startLine = false := by
  simp [addition?, Option.filter_eq_some_iff]

/-! ## What findings hold -/

theorem hasLine_iff {found : List Diagnostic} {line : Int} :
    hasLine found line = true ↔ line ∈ found.map (·.location.startLine) := by
  simp [hasLine]

theorem findings_concat (nodes : List Node) (node : Node) :
    analyzer.findings family host (nodes ++ [node]) =
      analyzer.findings family host nodes ++
        (analyzer.addition? family host (analyzer.findings family host nodes) node).toList := by
  simp [findings]

/-- The lines of the findings are those of the hits: what is left out is on a line already. -/
theorem mem_lines_findings {nodes : List Node} {line : Int} :
    line ∈ (analyzer.findings family host nodes).map (·.location.startLine) ↔
      ∃ node ∈ nodes, ∃ name,
        analyzer.Hit family host node name ∧ (host.location node).startLine = line := by
  induction nodes using List.reverseRecOn generalizing line with
  | nil => simp [findings]
  | append_singleton nodes node induction =>
      rw [findings_concat, List.map_append, List.mem_append, induction]
      constructor
      · rintro (⟨other, member, hit⟩ | new)
        · exact ⟨other, List.mem_append_left _ member, hit⟩
        · rcases List.mem_map.1 new with ⟨finding, added, rfl⟩
          rcases finding?_eq_some.1 (addition?_eq_some.1 (Option.mem_toList.1 added)).1 with
            ⟨name, hit, rfl⟩
          exact ⟨node, by simp, name, hit, rfl⟩
      · rintro ⟨other, member, name, hit, rfl⟩
        rcases List.mem_append.1 member with earlier | last
        · exact Or.inl ⟨other, earlier, name, hit, rfl⟩
        · cases List.mem_singleton.1 last
          have own := finding?_eq_some.2 ⟨name, hit, rfl⟩
          cases present : hasLine (analyzer.findings family host nodes)
              (host.location node).startLine with
          | true => exact Or.inl (induction.1 (hasLine_iff.1 present))
          | false =>
              have added := addition?_eq_some.2 ⟨own, present⟩
              exact Or.inr (by simp [added])

theorem lines_nodup_findings (nodes : List Node) :
    ((analyzer.findings family host nodes).map (·.location.startLine)).Nodup := by
  induction nodes using List.reverseRecOn with
  | nil => simp [findings]
  | append_singleton nodes node induction =>
      rw [findings_concat]
      cases added : analyzer.addition? family host (analyzer.findings family host nodes) node with
      | none => simpa using induction
      | some finding =>
          have absent := (addition?_eq_some.1 added).2
          rw [← Bool.not_eq_true, hasLine_iff] at absent
          rw [List.map_append]
          refine List.nodup_append.2 ⟨induction, by simp, ?_⟩
          rintro line member other last rfl
          rw [Option.toList_some, List.map_singleton, List.mem_singleton] at last
          exact absent (last ▸ member)

/-- One more node leaves the first hits as they are, and is one itself where it adds a finding. -/
theorem firstHit_concat
    {nodes : List Node}
    {node : Node}
    {position : Nat}
    {finding : Diagnostic} :
    analyzer.FirstHit family host (nodes ++ [node]) position finding ↔
      analyzer.FirstHit family host nodes position finding ∨
        position = nodes.length ∧
          analyzer.addition? family host (analyzer.findings family host nodes) node =
            some finding := by
  rcases Nat.lt_trichotomy position nodes.length with inside | rfl | outside
  · have before : (nodes ++ [node]).take position = nodes.take position :=
      List.take_append_of_le_length inside.le
    have here : (nodes ++ [node])[position]? = nodes[position]? :=
      List.getElem?_append_left inside
    rw [FirstHit, here, before, ← FirstHit]
    simp [inside.ne]
  · have outside : ¬ analyzer.FirstHit family host nodes nodes.length finding := by
      rintro ⟨other, name, found, -⟩
      simp at found
    simp only [outside, false_or, true_and, addition?_eq_some, finding?_eq_some]
    rw [← Bool.not_eq_true, hasLine_iff, mem_lines_findings]
    constructor
    · rintro ⟨other, name, found, hit, rfl, earlier⟩
      obtain rfl : node = other := by simpa using found
      refine ⟨⟨name, hit, rfl⟩, ?_⟩
      rintro ⟨another, member, otherName, otherHit, same⟩
      exact earlier another (by simpa using member) otherName otherHit same
    · rintro ⟨⟨name, hit, rfl⟩, absent⟩
      refine ⟨node, name, by simp, hit, rfl, ?_⟩
      intro other member otherName otherHit same
      exact absent ⟨other, by simpa using member, otherName, otherHit, same⟩
  · have absent : ∀ list : List Node, list.length ≤ position →
        ¬ analyzer.FirstHit family host list position finding := by
      rintro list short ⟨other, name, found, -⟩
      rw [List.getElem?_eq_none short] at found
      cases found
    have longer : (nodes ++ [node]).length ≤ position := by
      rw [List.length_append]
      exact outside
    simp [absent nodes outside.le, absent (nodes ++ [node]) longer, outside.ne']

theorem mem_findings {nodes : List Node} {finding : Diagnostic} :
    finding ∈ analyzer.findings family host nodes ↔
      ∃ position, analyzer.FirstHit family host nodes position finding := by
  induction nodes using List.reverseRecOn with
  | nil => simp [findings, FirstHit]
  | append_singleton nodes node induction =>
      simp only [findings_concat, List.mem_append, induction, Option.mem_toList,
        firstHit_concat, exists_or, exists_eq_left]

/-- The findings stand in the order of the nodes. -/
theorem location_findings_sublist (nodes : List Node) :
    ((analyzer.findings family host nodes).map (·.location)).Sublist
      (nodes.map host.location) := by
  induction nodes using List.reverseRecOn with
  | nil => exact .slnil
  | append_singleton nodes node induction =>
      rw [findings_concat, List.map_append, List.map_append]
      apply induction.append
      cases added : analyzer.addition? family host (analyzer.findings family host nodes) node with
      | none => simp
      | some finding =>
          rcases finding?_eq_some.1 (addition?_eq_some.1 added).1 with ⟨name, -, rfl⟩
          simp

/-- Every other hit on the line of a first hit comes later. -/
theorem FirstHit.before_hits
    {nodes : List Node}
    {position : Nat}
    {finding : Diagnostic}
    (first : analyzer.FirstHit family host nodes position finding)
    {relation : Node → Node → Prop}
    (ordered : nodes.Pairwise relation) :
    ∃ node ∈ nodes, ∃ name, analyzer.Hit family host node name ∧
      finding.location = host.location node ∧
      ∀ other ∈ nodes, ∀ otherName, analyzer.Hit family host other otherName →
        (host.location other).startLine = finding.location.startLine →
        other = node ∨ relation node other := by
  rcases first with ⟨node, name, found, hit, rfl, earlier⟩
  rcases List.getElem?_eq_some_iff.1 found with ⟨inside, here⟩
  have split : nodes = nodes.take position ++ node :: nodes.drop (position + 1) := by
    rw [← here, List.getElem_cons_drop, List.take_append_drop]
  refine ⟨node, List.mem_of_getElem? found, name, hit, rfl, ?_⟩
  intro other member otherName otherHit sameLine
  rw [split] at member ordered
  rcases List.mem_append.1 member with before | after
  · exact absurd sameLine (earlier other before otherName otherHit)
  · rcases List.mem_cons.1 after with same | later
    · exact Or.inl same
    · have behind := (List.pairwise_append.1 ordered).2.1
      exact Or.inr ((List.pairwise_cons.1 behind).1 other later)

theorem isReport_findings (nodes : List Node) :
    analyzer.IsReport family host nodes (analyzer.findings family host nodes) where
  lines_nodup := lines_nodup_findings nodes
  mem_lines := fun _ => mem_lines_findings
  first_hits := by
    induction nodes using List.reverseRecOn with
    | nil =>
        refine ⟨[], .nil, ?_, .nil⟩
        intro position
        simp [FirstHit]
    | append_singleton nodes node induction =>
        rcases induction with ⟨positions, increasing, complete, first⟩
        -- The first hits so far stay first hits.
        have kept : List.Forall₂ (analyzer.FirstHit family host (nodes ++ [node])) positions
            (analyzer.findings family host nodes) :=
          first.imp fun position finding hit => firstHit_concat.2 (Or.inl hit)
        rw [findings_concat]
        cases added : analyzer.addition? family host
            (analyzer.findings family host nodes) node with
        | none =>
            refine ⟨positions, increasing, ?_, by simpa using kept⟩
            intro position
            simp [complete, firstHit_concat, added]
        | some finding =>
            refine ⟨positions ++ [nodes.length], ?_, ?_, ?_⟩
            · refine List.pairwise_append.2 ⟨increasing, List.pairwise_singleton _ _, ?_⟩
              intro position member last isLast
              cases List.mem_singleton.1 isLast
              rcases (complete position).1 member with ⟨_, other, name, found, -⟩
              exact (List.getElem?_eq_some_iff.1 found).1
            · intro position
              simp only [List.mem_append, List.mem_singleton, complete, firstHit_concat, added,
                Option.some.injEq, exists_or, exists_and_left, exists_eq', and_true]
            · have last := firstHit_concat.2 (Or.inr ⟨rfl, added⟩)
              exact List.rel_append kept (.cons last .nil)

/-- Adding findings one by one is making the findings of all nodes and dropping, afterwards,
those on a line that had one before. -/
theorem findings_eq_eraseDupsBy (nodes : List Node) :
    analyzer.findings family host nodes =
      (nodes.filterMap (analyzer.finding? family host)).eraseDupsBy fun later earlier =>
        later.location.startLine = earlier.location.startLine := by
  have loop : ∀ (nodes : List Node) (found : List Diagnostic),
      nodes.foldl
          (fun found node => found ++ (analyzer.addition? family host found node).toList)
          found =
        List.eraseDupsBy.loop
          (fun later earlier => decide (later.location.startLine = earlier.location.startLine))
          (nodes.filterMap (analyzer.finding? family host)) found.reverse := by
    intro nodes
    induction nodes with
    | nil => simp [List.eraseDupsBy.loop]
    | cons node rest induction =>
        intro found
        rw [List.foldl_cons, induction]
        cases own : analyzer.finding? family host node with
        | none => simp [addition?, own]
        | some finding =>
            have same : found.reverse.any (fun earlier =>
                decide (finding.location.startLine = earlier.location.startLine)) =
                hasLine found finding.location.startLine := by
              simp [hasLine, eq_comm]
            rw [List.filterMap_cons_some own, List.eraseDupsBy.loop, same,
              addition?_of_finding? own]
            cases hasLine found finding.location.startLine <;> simp
  exact loop nodes []

/-! ## Delivering nodes -/

/-- A unit that has not ended and holds findings. -/
def holding (analyzer : Analyzer) (family : Family) (found : List Diagnostic) :
    UnitScan :=
  ⟨family, ⟨analyzer.rule, some found⟩⟩

/-- Why an analysis can break off at a node: matching it makes the host break down. -/
def Breaks
    (analyzer : Analyzer)
    (family : Family)
    (host : Host Node)
    (node : Node)
    (failure : HostFailure) :
    Prop :=
  ∃ category, analyzer.firstMatch family host node category analyzer.strategies =
    .error failure

/--
A node that is delivered adds its finding, or makes the host break down.  This
is where the short cut is seen to be sound: on a line that has a finding the
node is not matched, and would have added nothing.
-/
theorem visit_cases (found : List Diagnostic) (node : Node) :
    analyzer.visit host (analyzer.holding family found) node =
        .ok (analyzer.addition? family host found node,
          analyzer.holding family
            (found ++ (analyzer.addition? family host found node).toList)) ∨
      ∃ failure, analyzer.Breaks family host node failure ∧
        analyzer.visit host (analyzer.holding family found) node = .error (.host failure) := by
  rw [visit, addition?, finding?, hit?]
  simp only [holding, Reporter.hasLine, Reporter.findings, ok_bind]
  cases family.category? (host.kind node) with
  | none => exact Or.inl (by simp)
  | some category =>
      by_cases literal : (host.location node).inSource = true
      · simp only [literal, Bool.not_true, Bool.false_eq_true, if_false, if_true, pure,
          Except.pure]
        cases outcome : analyzer.firstMatch family host node category analyzer.strategies with
        | error failure =>
            cases hasLine found (host.location node).startLine with
            | true => exact Or.inl (by simp)
            | false => exact Or.inr ⟨failure, ⟨category, outcome⟩, rfl⟩
        | ok result =>
            left
            cases result with
            | none => cases hasLine found (host.location node).startLine <;> simp
            | some name =>
                cases present : hasLine found (host.location node).startLine <;>
                  simp [Option.filter_some, Reporter.report, Reporter.findings,
                    Reporter.finding, pure, Except.pure, present]
      · left
        simp [literal]

theorem visitAll_append (unit : UnitScan) (before after : List Node) :
    analyzer.visitAll host unit (before ++ after) =
      (analyzer.visitAll host unit before >>= fun next => analyzer.visitAll host next after) := by
  induction before generalizing unit with
  | nil => rfl
  | cons node rest induction =>
      rw [List.cons_append, visitAll, visitAll]
      cases analyzer.visit host unit node with
      | error error => rfl
      | ok result =>
          simp only [ok_bind]
          exact induction result.2

/-- Nodes that are delivered one by one leave their findings, or one of them makes the host
break down. -/
theorem visitAll_cases (nodes : List Node) :
    analyzer.visitAll host (analyzer.begin family) nodes =
        .ok (analyzer.holding family (analyzer.findings family host nodes)) ∨
      ∃ node ∈ nodes, ∃ failure, analyzer.Breaks family host node failure ∧
        analyzer.visitAll host (analyzer.begin family) nodes = .error (.host failure) := by
  induction nodes using List.reverseRecOn with
  | nil => exact Or.inl rfl
  | append_singleton nodes node induction =>
      rw [visitAll_append]
      rcases induction with all | ⟨other, member, failure, breaks, stopped⟩
      · rw [all, ok_bind, findings_concat, visitAll]
        rcases visit_cases (analyzer.findings family host nodes) node with
          next | ⟨failure, breaks, stopped⟩
        · rw [next]
          exact Or.inl rfl
        · rw [stopped]
          exact Or.inr ⟨node, by simp, failure, breaks, rfl⟩
      · rw [stopped]
        exact Or.inr ⟨other, List.mem_append_left _ member, failure, breaks, rfl⟩

theorem analyze_of_visitAll
    {nodes : List Node}
    {found : List Diagnostic}
    (visited : analyzer.visitAll host (analyzer.begin family) nodes =
      .ok (analyzer.holding family found)) :
    analyzer.analyze family host nodes = .ok found := by
  rw [analyze, visited]
  rfl

/-- An analysis gives the findings of its nodes, or one of them makes the host break down. -/
theorem analyze_cases
    (analyzer : Analyzer)
    (family : Family)
    (host : Host Node)
    (nodes : List Node) :
    analyzer.analyze family host nodes = .ok (analyzer.findings family host nodes) ∨
      ∃ node ∈ nodes, ∃ failure, analyzer.Breaks family host node failure ∧
        analyzer.analyze family host nodes = .error (.host failure) := by
  rcases analyzer.visitAll_cases nodes with all | ⟨node, member, failure, breaks, stopped⟩
  · exact Or.inl (analyze_of_visitAll all)
  · refine Or.inr ⟨node, member, failure, breaks, ?_⟩
    rw [analyze, stopped]
    rfl

/-- An analysis breaks off at a node only where the host breaks down over the part on which the
node is judged. -/
theorem Breaks.part
    {node : Node}
    {failure : HostFailure}
    (breaks : analyzer.Breaks family host node failure) :
    ∃ category target, Strategy.part family host node category = some target ∧
      host.answer target = .failed failure := by
  rcases breaks with ⟨category, failed⟩
  refine ⟨category, ?_⟩
  generalize analyzer.strategies = strategies at failed
  induction strategies with
  | nil => cases failed
  | cons first rest induction =>
      rw [firstMatch] at failed
      cases outcome : first.find analyzer.registry family host node category with
      | error other =>
          rw [outcome] at failed
          cases failed
          exact Strategy.find_eq_error outcome
      | ok found =>
          rw [outcome] at failed
          cases found with
          | none => exact induction failed
          | some name => cases failed

theorem not_breaks
    (answers : host.Answers)
    (node : Node)
    (failure : HostFailure) :
    ¬ analyzer.Breaks family host node failure := by
  intro breaks
  rcases breaks.part with ⟨category, target, -, failed⟩
  exact answers target failure failed

theorem visitAll_of_answers (answers : host.Answers) (nodes : List Node) :
    analyzer.visitAll host (analyzer.begin family) nodes =
      .ok (analyzer.holding family (analyzer.findings family host nodes)) := by
  rcases analyzer.visitAll_cases nodes with all | ⟨node, -, failure, breaks, -⟩
  · exact all
  · exact absurd breaks (not_breaks answers node failure)

theorem visit_of_answers
    (answers : host.Answers)
    (found : List Diagnostic)
    (node : Node) :
    analyzer.visit host (analyzer.holding family found) node =
      .ok (analyzer.addition? family host found node,
        analyzer.holding family
          (found ++ (analyzer.addition? family host found node).toList)) := by
  rcases analyzer.visit_cases found node with added | ⟨failure, breaks, -⟩
  · exact added
  · exact absurd breaks (not_breaks answers node failure)

theorem analyze_of_answers (answers : host.Answers) (nodes : List Node) :
    analyzer.analyze family host nodes = .ok (analyzer.findings family host nodes) :=
  analyze_of_visitAll (visitAll_of_answers answers nodes)

theorem firstHit_append
    {before after : List Node}
    {node : Node}
    {finding : Diagnostic} :
    analyzer.FirstHit family host (before ++ node :: after) before.length finding ↔
      analyzer.addition? family host (analyzer.findings family host before) node =
        some finding := by
  have same : analyzer.FirstHit family host (before ++ node :: after) before.length finding ↔
      analyzer.FirstHit family host (before ++ [node]) before.length finding := by
    simp [FirstHit]
  rw [same, firstHit_concat]
  have outside : ¬ analyzer.FirstHit family host before before.length finding := by
    rintro ⟨other, name, found, -⟩
    simp at found
  simp [outside]

/--
An analysis reports the first hit on every line.  It gives the findings of the
first hits in the order of their nodes and hands exactly these to the sink; it
might as well match every node and drop the findings on lines that have one
afterwards; and what it answers for a node as it goes is the finding of that
node among those it gives in the end.
-/
theorem analyze_reports_first_hits
    (analyzer : Analyzer)
    (family : Family)
    {host : Host Node}
    (answers : host.Answers)
    (nodes : List Node)
    (session : Session) :
    ∃ findings,
      analyzer.analyze family host nodes = .ok findings ∧
      session.analyze analyzer family host nodes =
        .ok (findings, { session with sink := session.sink ++ findings }) ∧
      analyzer.IsReport family host nodes findings ∧
      findings =
        (nodes.filterMap (analyzer.finding? family host)).eraseDupsBy
          (fun later earlier => later.location.startLine = earlier.location.startLine) ∧
      ∀ before node after, nodes = before ++ node :: after →
        ∃ unit answer next,
          analyzer.visitAll host (analyzer.begin family) before = .ok unit ∧
          analyzer.visit host unit node = .ok (answer, next) ∧
          (∀ finding, answer = some finding ↔
            analyzer.FirstHit family host nodes before.length finding) ∧
          (∀ finding, answer = some finding → finding ∈ findings) := by
  have done : analyzer.analyze family host nodes = .ok (analyzer.findings family host nodes) :=
    analyze_of_answers answers nodes
  refine ⟨analyzer.findings family host nodes, done, ?_, isReport_findings nodes,
    findings_eq_eraseDupsBy nodes, ?_⟩
  · rw [Session.analyze, done]
  · rintro before node after rfl
    refine ⟨_, _, _, visitAll_of_answers answers before, visit_of_answers answers _ node,
      fun finding => firstHit_append.symm, ?_⟩
    intro finding added
    exact mem_findings.2 ⟨before.length, firstHit_append.2 added⟩

end

end Analyzer

/-! ## A sample unit -/

/-- A registry with one entry. -/
def sampleRegistry : Registry where
  keys := NameSet.singleton "Sample.Counter.Read"
  members := [⟨"Sample.Counter", "Read", .staticMethod⟩]
  parsed := rfl
  types := NameSet.ofList ["Sample.Counter"]
  types_eq := rfl

/-- The analyzer that looks for its entry. -/
def sampleAnalyzer : Analyzer where
  registry := sampleRegistry

/-- A host whose nodes are calls of static methods of one type, each with its place. -/
def sampleHost : Host (Location × String) where
  kind _ := "InvocationExpression"
  location node := node.1
  child node role := if role = .expression then some node else none
  answer node :=
    .symbol (.method ⟨node.2, some { space := "Sample", name := "Counter" }, true⟩)

theorem answers_sampleHost : sampleHost.Answers := by
  intro node failure
  simp [sampleHost]

/-- A call of a method at a line and a column. -/
def sampleNode (line column : Int) (method : String) : Location × String :=
  (⟨"Sample.cs", line, column, none, none, true⟩, method)

/-- The finding at a line and a column. -/
def sampleFinding (line column : Int) : Diagnostic :=
  ⟨.appOnly, ⟨"Sample.cs", line, column, none, none, true⟩, ["Sample.Counter"]⟩

/-- Calls on two lines, the later line first. -/
def sampleNodes : List (Location × String) :=
  [sampleNode 7 4 "Read", sampleNode 7 20 "Read", sampleNode 3 0 "Reset", sampleNode 3 8 "Read"]

/-- Of two forbidden calls on one line the first is reported, and a call that is allowed does
not keep back a later one on its line. -/
theorem Analyzer.analyze_reports_first_hits_sampleNodes :
    sampleHost.Answers ∧
      sampleAnalyzer.analyze .csharp sampleHost sampleNodes =
        .ok [sampleFinding 7 4, sampleFinding 3 8] := by
  refine ⟨answers_sampleHost, ?_⟩
  rcases analyze_reports_first_hits sampleAnalyzer .csharp answers_sampleHost sampleNodes
      .start with
    ⟨findings, done, -, -, same, -⟩
  rw [done, same]
  rfl

end WinrtLint
