import WinrtLint.Proofs.Analysis.FirstHits

/-!
# One rule for both syntaxes

The nodes of a C# unit can be told in Visual Basic: a declaration then holds its
type in an `As` clause, and there are two kinds of casts.  A node and its
translation have the same place and category, and they are judged on parts of
which the hosts say the same (`Translation.agrees`).  An analysis sees no more
of them, so it takes the same step at both (`Agrees.visit_eq`), and a unit and
its translation have the same findings or break down alike
(`findings_of_translation`).
-/

namespace WinrtLint

open WinrtLint.Outcome

variable {Node Other : Type}

/-! ## Translations -/

/-- Two hosts say the same of two parts, or both parts are missing. -/
def SameAnswer (csharp : Host Node) (basic : Host Other) :
    Option Node → Option Other → Prop :=
  Option.Rel fun part other => basic.answer other = csharp.answer part

/--
How a node is told in Visual Basic.  A type that is missing from a declaration
is missing from its `As` clause, or the clause itself is missing.
-/
inductive Retells
    (csharp : Host Node)
    (basic : Host Other)
    (node : Node)
    (other : Other) : Prop
  | invocation
      (kind : csharp.kind node = "InvocationExpression")
      (otherKind : basic.kind other = "InvocationExpression")
      (target : SameAnswer csharp basic (csharp.child node .expression)
        (basic.child other .expression))
  | objectCreation
      (kind : csharp.kind node = "ObjectCreationExpression")
      (otherKind : basic.kind other = "ObjectCreationExpression")
      (type : SameAnswer csharp basic (csharp.child node .type) (basic.child other .type))
  | variableDeclaration
      (kind : csharp.kind node = "VariableDeclaration")
      (otherKind : basic.kind other = "VariableDeclarator")
      (type : SameAnswer csharp basic (csharp.child node .type)
        ((basic.child other .asClause).bind fun clause => basic.child clause .type))
  | cast
      (kind : csharp.kind node = "CastExpression")
      (otherKind : basic.kind other = "DirectCastExpression" ∨
        basic.kind other = "TryCastExpression")
      (type : SameAnswer csharp basic (csharp.child node .type) (basic.child other .type))
  | unknown
      (kind : Family.csharp.category? (csharp.kind node) = none)
      (otherKind : ∀ family : Family, family.category? (basic.kind other) = none)

/-- A node and what stands for it in Visual Basic, at the same place. -/
structure Translation
    (csharp : Host Node)
    (basic : Host Other)
    (node : Node)
    (other : Other) : Prop where
  location : basic.location other = csharp.location node
  retells : Retells csharp basic node other

theorem SameAnswer.resolve_eq
    {csharp : Host Node}
    {basic : Host Other}
    {part : Option Node}
    {otherPart : Option Other}
    (same : SameAnswer csharp basic part otherPart) :
    basic.resolve otherPart = csharp.resolve part := by
  cases same with
  | none => rfl
  | some same => rw [Host.resolve, Host.resolve, same]

theorem Family.typeClause_declaration (basic : Host Other) (other : Other) :
    Family.visualBasic.typeClause basic other .variableDeclaration =
      (basic.child other .asClause).bind fun clause => basic.child clause .type := by
  rw [typeClause]
  cases basic.child other .asClause <;> rfl

/-! ## What an analysis sees of a node -/

/-- All that an analysis sees of a node is the same in both syntaxes. -/
structure Agrees
    (csharp : Host Node)
    (basic : Host Other)
    (node : Node)
    (other : Other) : Prop where
  location : basic.location other = csharp.location node
  category : Family.visualBasic.category? (basic.kind other) =
    Family.csharp.category? (csharp.kind node)
  resolve : ∀ category, Family.csharp.category? (csharp.kind node) = some category →
    basic.resolve (Strategy.part .visualBasic basic other category) =
      csharp.resolve (Strategy.part .csharp csharp node category)

section

variable {csharp : Host Node} {basic : Host Other} {node : Node} {other : Other}

theorem Translation.agrees (translation : Translation csharp basic node other) :
    Agrees csharp basic node other := by
  rcases translation with ⟨location, retells⟩
  -- The kind decides the category on both sides, and with it the part that is judged.
  cases retells with
  | invocation kind otherKind target =>
      refine ⟨location, by rw [kind, otherKind]; rfl, ?_⟩
      intro category known
      rw [kind] at known
      cases known
      exact target.resolve_eq
  | objectCreation kind otherKind type =>
      refine ⟨location, by rw [kind, otherKind]; rfl, ?_⟩
      intro category known
      rw [kind] at known
      cases known
      exact type.resolve_eq
  | variableDeclaration kind otherKind type =>
      refine ⟨location, by rw [kind, otherKind]; rfl, ?_⟩
      intro category known
      rw [kind] at known
      cases known
      exact (congrArg basic.resolve (Family.typeClause_declaration basic other)).trans
        type.resolve_eq
  | cast kind otherKind type =>
      refine ⟨location, by rcases otherKind with otherKind | otherKind <;>
        rw [kind, otherKind] <;> rfl, ?_⟩
      intro category known
      rw [kind] at known
      cases known
      exact type.resolve_eq
  | unknown kind otherKind =>
      refine ⟨location, (otherKind .visualBasic).trans kind.symm, ?_⟩
      intro category known
      rw [kind] at known
      cases known

namespace Agrees

variable {analyzer : Analyzer}

theorem find_eq
    (agrees : Agrees csharp basic node other)
    {category : Category}
    (known : Family.csharp.category? (csharp.kind node) = some category)
    (strategy : Strategy)
    (registry : Registry) :
    strategy.find registry .visualBasic basic other category =
      strategy.find registry .csharp csharp node category := by
  rw [Strategy.find_eq, Strategy.find_eq, agrees.resolve category known]

theorem firstMatch_eq
    (agrees : Agrees csharp basic node other)
    {category : Category}
    (known : Family.csharp.category? (csharp.kind node) = some category)
    (strategies : List Strategy) :
    analyzer.firstMatch .visualBasic basic other category strategies =
      analyzer.firstMatch .csharp csharp node category strategies := by
  induction strategies with
  | nil => rfl
  | cons strategy rest induction =>
      rw [Analyzer.firstMatch, Analyzer.firstMatch, agrees.find_eq known, induction]

/-- A node and its translation take units with one reporter on by the same step. -/
theorem visit_eq
    (agrees : Agrees csharp basic node other)
    (reporter : Reporter) :
    ∃ step : Except ScanError (Option Diagnostic × Reporter),
      analyzer.visit csharp ⟨.csharp, reporter⟩ node =
        step.map (fun after => (after.1, ⟨.csharp, after.2⟩)) ∧
      analyzer.visit basic ⟨.visualBasic, reporter⟩ other =
        step.map (fun after => (after.1, ⟨.visualBasic, after.2⟩)) := by
  simp only [Analyzer.visit, agrees.category, agrees.location]
  cases known : Family.csharp.category? (csharp.kind node) with
  | none => exact ⟨.ok (none, reporter), rfl, rfl⟩
  | some category =>
      simp only [agrees.firstMatch_eq known]
      cases (csharp.location node).inSource with
      | false => exact ⟨.ok (none, reporter), rfl, rfl⟩
      | true =>
          rcases reporter.hasLine (csharp.location node).startLine with cause | (_ | _)
          · exact ⟨.error (.ended cause), rfl, rfl⟩
          · rcases analyzer.firstMatch .csharp csharp node category analyzer.strategies with
              failure | (_ | name)
            · exact ⟨.error (.host failure), rfl, rfl⟩
            · exact ⟨.ok (none, reporter), rfl, rfl⟩
            · simp only [Bool.not_true, Bool.false_eq_true, if_false]
              rcases reporter.report name (csharp.location node) with cause | kept
              · exact ⟨.error (.ended cause), rfl, rfl⟩
              · exact ⟨.ok (some ⟨analyzer.rule, csharp.location node, [name]⟩, kept.2), rfl, rfl⟩
          · exact ⟨.ok (none, reporter), rfl, rfl⟩

end Agrees

end

/-! ## Units and their translations -/

namespace Analyzer

variable
    (analyzer : Analyzer)
    {csharp : Host Node}
    {basic : Host Other}
    {nodes : List Node}
    {others : List Other}

/-- Nodes and their translations take units with one reporter on by the same steps. -/
theorem visitAll_of_translation
    (translated : List.Forall₂ (Translation csharp basic) nodes others)
    (reporter : Reporter) :
    ∃ run : Except ScanError Reporter,
      analyzer.visitAll csharp ⟨.csharp, reporter⟩ nodes = run.map (⟨.csharp, ·⟩) ∧
      analyzer.visitAll basic ⟨.visualBasic, reporter⟩ others = run.map (⟨.visualBasic, ·⟩) := by
  induction translated generalizing reporter with
  | nil => exact ⟨.ok reporter, rfl, rfl⟩
  | cons pair _ induction =>
      rcases pair.agrees.visit_eq reporter with ⟨step, visited, otherVisited⟩
      rw [visitAll, visitAll, visited, otherVisited]
      cases step with
      | error failure => exact ⟨.error failure, rfl, rfl⟩
      | ok after => exact induction after.2

theorem analyze_of_translation
    (translated : List.Forall₂ (Translation csharp basic) nodes others) :
    analyzer.analyze .visualBasic basic others = analyzer.analyze .csharp csharp nodes := by
  rcases visitAll_of_translation analyzer translated (.start analyzer.rule) with
    ⟨run, visited, otherVisited⟩
  rw [analyze, analyze, begin, begin, visited, otherVisited]
  cases run with
  | error failure => rfl
  | ok reporter =>
      simp only [Except.map, ok_bind, finish]
      cases reporter.finish <;> rfl

/--
A C# unit and its translation to Visual Basic are judged alike, whatever the
registry, the strategies and the hosts are: the analysis gives the same findings
or breaks off for the same failure, and it hands the same findings to the sink
of a session.
-/
theorem findings_of_translation
    (translated : List.Forall₂ (Translation csharp basic) nodes others)
    (session : Session) :
    analyzer.analyze .visualBasic basic others = analyzer.analyze .csharp csharp nodes ∧
    session.analyze analyzer .visualBasic basic others =
      session.analyze analyzer .csharp csharp nodes := by
  have same := analyze_of_translation analyzer translated
  exact ⟨same, by rw [Session.analyze, Session.analyze, same]⟩

/-! ## A sample translation -/

/-- A sealed class that owns a forbidden member, named at a place. -/
def counterClause : HostNode :=
  .node "IdentifierName" ⟨"Sample.cs", 0, 0, none, none, true⟩
    (.symbol (.type { space := "Sample", name := "Counter" })) none none none

/-- A node at a line, with what it holds. -/
def nodeOnLine
    (line : Int)
    (kind : String)
    (expression type clause : Option HostNode) :
    HostNode :=
  .node kind ⟨"Sample.cs", line, 0, none, none, true⟩ .absent expression type clause

/-- Declarations with and without a type, two casts, and a node that no rule judges. -/
def sharpNodes : List HostNode :=
  [nodeOnLine 1 "VariableDeclaration" none (some counterClause) none,
    nodeOnLine 2 "VariableDeclaration" none none none,
    nodeOnLine 3 "VariableDeclaration" none none none,
    nodeOnLine 4 "CastExpression" none (some counterClause) none,
    nodeOnLine 5 "CastExpression" none (some counterClause) none,
    nodeOnLine 6 "VariableDeclarator" none (some counterClause) none]

/-- The same in Visual Basic. -/
def basicNodes : List HostNode :=
  [nodeOnLine 1 "VariableDeclarator" none none
      (some (nodeOnLine 1 "SimpleAsClause" none (some counterClause) none)),
    nodeOnLine 2 "VariableDeclarator" none none none,
    nodeOnLine 3 "VariableDeclarator" none none
      (some (nodeOnLine 3 "SimpleAsClause" none none none)),
    nodeOnLine 4 "DirectCastExpression" none (some counterClause) none,
    nodeOnLine 5 "TryCastExpression" none (some counterClause) none,
    nodeOnLine 6 "ModifiedIdentifier" none (some counterClause) none]

/-- Both casts and the declaration behind its clause are found, and nothing is found where the
type is missing. -/
theorem findings_of_translation_basicNodes :
    List.Forall₂ (Translation HostNode.host HostNode.host) sharpNodes basicNodes ∧
    Session.start.analyze sampleAnalyzer .visualBasic HostNode.host basicNodes =
      .ok ([sampleFinding 1 0, sampleFinding 4 0, sampleFinding 5 0],
        ⟨[], [sampleFinding 1 0, sampleFinding 4 0, sampleFinding 5 0]⟩) := by
  have translated : List.Forall₂ (Translation HostNode.host HostNode.host) sharpNodes basicNodes :=
    .cons ⟨rfl, .variableDeclaration rfl rfl (.some rfl)⟩ <|
      .cons ⟨rfl, .variableDeclaration rfl rfl .none⟩ <|
      .cons ⟨rfl, .variableDeclaration rfl rfl .none⟩ <|
      .cons ⟨rfl, .cast rfl (Or.inl rfl) (.some rfl)⟩ <|
      .cons ⟨rfl, .cast rfl (Or.inr rfl) (.some rfl)⟩ <|
      .cons ⟨rfl, .unknown rfl fun family => by cases family <;> rfl⟩ .nil
  refine ⟨translated, ?_⟩
  rw [(findings_of_translation sampleAnalyzer translated .start).2]
  rfl

end Analyzer

end WinrtLint
