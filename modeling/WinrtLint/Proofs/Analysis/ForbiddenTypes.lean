import WinrtLint.Proofs.Analysis.Isolation
import WinrtLint.Proofs.Denylist.Keys
import WinrtLint.Proofs.Denylist.Merging

/-!
# Only forbidden types are reported

The member strategy looks up a key that it puts together itself, while the types
of a registry are what its entries were taken apart into.  The two agree as long
as the key is taken apart where it was put together, which is what plain method
names are for (`Registry.containsType_of_memberKey`).  Then whatever a strategy
finds is a type of the registry (`Strategy.containsType_of_find`), and no event
of a unit or of a session brings in a finding about anything else
(`Analyzer.onlyForbidden_visit`, `Session.OnlyForbidden.after`).
-/

namespace WinrtLint

open WinrtLint.Outcome

variable {Node : Type}

/-! ## What is found -/

namespace Registry

variable {registry : Registry} {owner name : String}

/-- A registry that lists a member under a plain name forbids the owner of the member. -/
theorem containsType_of_memberKey
    (plain : name = constructorName ∨ '.' ∉ name.toList ∧ owner.toList.getLast? ≠ some '.')
    (listed : registry.contains (memberKey owner name) = true) :
    registry.containsType owner = true := by
  rcases exists_member listed with ⟨member, inside, read⟩
  have owned := Member.owner_of_parse_memberKey plain read
  exact NameSet.contains_iff.2 (mem_types.2 ⟨member, inside, owned⟩)

end Registry

/-- A method of plain name: it is called like constructors or has no dot in its name, and the name
of its owner, if it has one, does not end in a dot. -/
def MethodSymbol.IsPlain (method : MethodSymbol) : Prop :=
  (method.name = constructorName ∨ '.' ∉ method.name.toList) ∧
    ∀ owner ∈ method.containingType, owner.display.toList.getLast? ≠ some '.'

/-- Every method to which a host refers has a plain name. -/
def Host.IsPlain (host : Host Node) : Prop :=
  ∀ node method, host.answer node = .symbol (.method method) → method.IsPlain

theorem Host.resolve_eq_some
    {host : Host Node}
    {node : Option Node}
    {symbol : Symbol}
    (resolved : host.resolve node = .ok (some symbol)) :
    ∃ target, node = some target ∧ host.answer target = .symbol symbol := by
  cases node with
  | none => cases resolved
  | some node =>
      rw [Host.resolve] at resolved
      split at resolved
      · rename_i answer
        cases resolved
        exact ⟨node, rfl, answer⟩
      all_goals cases resolved

namespace Strategy

variable {registry : Registry} {name : String}

theorem invokedMember?_eq_some
    {symbol : Symbol}
    {key : String}
    (invoked : invokedMember? symbol = some (name, key)) :
    ∃ method owner, symbol = .method method ∧ method.containingType = some owner ∧
      owner.display = name ∧ memberKey name method.name = key := by
  cases symbol with
  | type type => cases invoked
  | method method =>
      rw [invokedMember?] at invoked
      split at invoked
      · rename_i owner _ contained
        cases invoked
        exact ⟨method, owner, rfl, contained, rfl, rfl⟩
      · cases invoked

/-- A strategy decides for a type of the registry only. -/
theorem containsType_of_verdict
    {symbol : Symbol}
    {strategy : Strategy}
    {category : Category}
    (plain : ∀ method, symbol = .method method → method.IsPlain)
    (decided : strategy.verdict registry (some symbol) category = some name) :
    registry.containsType name = true := by
  cases strategy with
  | typeReference =>
      rcases Option.bind_eq_some_iff.1 decided with ⟨found, -, kept⟩
      rcases Option.ite_none_right_eq_some.1 kept with ⟨forbidden, ⟨⟩⟩
      exact forbidden
  | member =>
      cases category with
      | invocation =>
          rcases Option.bind_eq_some_iff.1 decided with ⟨⟨found, key⟩, invoked, kept⟩
          rcases Option.ite_none_right_eq_some.1 kept with ⟨listed, ⟨⟩⟩
          rcases invokedMember?_eq_some invoked with ⟨method, owner, rfl, contained, rfl, rfl⟩
          rcases plain method rfl with ⟨named, closed⟩
          refine Registry.containsType_of_memberKey ?_ listed
          exact named.imp_right fun dotFree => ⟨dotFree, closed owner contained⟩
      | _ =>
          -- The name of constructors is plain behind whatever owner.
          rcases Option.ite_none_right_eq_some.1 decided with ⟨listed, ⟨⟩⟩
          exact Registry.containsType_of_memberKey (Or.inl rfl) listed

/-- A strategy finds types of the registry only. -/
theorem containsType_of_find
    {host : Host Node}
    (plain : host.IsPlain)
    {strategy : Strategy}
    {family : Family}
    {node : Node}
    {category : Category}
    (found : strategy.find registry family host node category = .ok (some name)) :
    registry.containsType name = true := by
  rw [find_eq] at found
  split at found
  · cases resolved : host.resolve (part family host node category) with
    | error failure =>
        rw [resolved] at found
        cases found
    | ok symbol =>
        rw [resolved] at found
        have decided : strategy.verdict registry symbol category = some name :=
          Except.ok.inj found
        cases symbol with
        | none => cases strategy <;> cases category <;> cases decided
        | some symbol =>
            rcases Host.resolve_eq_some resolved with ⟨target, -, answer⟩
            refine containsType_of_verdict ?_ decided
            rintro method rfl
            exact plain target method answer
  · cases found

end Strategy

/-! ## What is reported -/

/-- A finding names one type, and the type is forbidden. -/
def Diagnostic.NamesForbidden
    (registry : Registry)
    (finding : Diagnostic) :
    Prop :=
  ∃ owner, finding.arguments = [owner] ∧ registry.containsType owner = true

/-- A unit holds findings about forbidden types only. -/
def UnitScan.OnlyForbidden (registry : Registry) (unit : UnitScan) : Prop :=
  ∀ found ∈ unit.reporter.pending, ∀ finding ∈ found, finding.NamesForbidden registry

/-- What is reported on a line without a finding comes behind what there was. -/
theorem Reporter.report_eq_ok
    {reporter next : Reporter}
    {name : String}
    {location : Location}
    {kept : Bool}
    (free : reporter.hasLine location.startLine = .ok false)
    (reported : reporter.report name location = .ok (kept, next)) :
    ∃ found, reporter.pending = some found ∧
      next.pending = some (found ++ [reporter.finding name location]) := by
  rw [hasLine, findings] at free
  rw [report, findings] at reported
  cases pending : reporter.pending with
  | none =>
      rw [pending] at reported
      cases reported
  | some found =>
      rw [pending] at free reported
      have absent : WinrtLint.hasLine found location.startLine = false := Except.ok.inj free
      simp only [ok_bind, absent, Bool.false_eq_true, if_false] at reported
      cases reported
      exact ⟨found, rfl, rfl⟩

namespace Analyzer

variable
    {analyzer : Analyzer}
    {family : Family}
    {host : Host Node}
    {node : Node}
    {unit next : UnitScan}

/-- The first match gives a type of the registry. -/
theorem containsType_of_firstMatch
    (plain : host.IsPlain)
    {category : Category}
    {strategies : List Strategy}
    {name : String}
    (matched : analyzer.firstMatch family host node category strategies = .ok (some name)) :
    analyzer.registry.containsType name = true := by
  rcases firstMatch_eq_some.1 matched with ⟨-, strategy, -, -, -, found⟩
  exact Strategy.containsType_of_find plain found

theorem onlyForbidden_begin : (analyzer.begin family).OnlyForbidden analyzer.registry := by
  rintro found ⟨⟩ finding member
  cases member

/-- What a node does to a unit: nothing, or a match leaves a finding behind those that are there. -/
theorem visit_eq_ok
    {answer : Option Diagnostic}
    (visited : analyzer.visit host unit node = .ok (answer, next)) :
    answer = none ∧ next = unit ∨
      ∃ category name found,
        analyzer.firstMatch unit.family host node category analyzer.strategies =
          .ok (some name) ∧
        unit.reporter.pending = some found ∧
        answer = some ⟨analyzer.rule, host.location node, [name]⟩ ∧
        next.reporter.pending =
          some (found ++ [unit.reporter.finding name (host.location node)]) := by
  rw [visit] at visited
  split at visited
  · cases visited
    exact Or.inl ⟨rfl, rfl⟩
  · rename_i category known
    simp only at visited
    split at visited
    · cases visited
      exact Or.inl ⟨rfl, rfl⟩
    · split at visited
      · cases visited
      · cases visited
        exact Or.inl ⟨rfl, rfl⟩
      · rename_i free
        split at visited
        · cases visited
        · cases visited
          exact Or.inl ⟨rfl, rfl⟩
        · rename_i name matched
          split at visited
          · cases visited
          · rename_i kept reporter reported
            cases visited
            rcases Reporter.report_eq_ok free reported with ⟨found, pending, added⟩
            exact Or.inr ⟨category, name, found, matched, pending, rfl, added⟩

/-- A node that is delivered brings in a finding about a forbidden type, if any. -/
theorem onlyForbidden_visit
    (plain : host.IsPlain)
    {answer : Option Diagnostic}
    (visited : analyzer.visit host unit node = .ok (answer, next))
    (only : unit.OnlyForbidden analyzer.registry) :
    next.OnlyForbidden analyzer.registry ∧
      ∀ finding ∈ answer, finding.NamesForbidden analyzer.registry := by
  rcases visit_eq_ok visited with
    ⟨rfl, rfl⟩ | ⟨category, name, found, matched, pending, rfl, added⟩
  · exact ⟨only, fun _ given => by cases given⟩
  · have forbidden := containsType_of_firstMatch plain matched
    constructor
    · intro others held finding member
      rw [added] at held
      cases held
      rcases List.mem_append.1 member with old | last
      · exact only found pending finding old
      · rw [List.mem_singleton.1 last]
        exact ⟨name, rfl, forbidden⟩
    · rintro finding ⟨⟩
      exact ⟨name, rfl, forbidden⟩

/-- Nodes that are delivered one by one leave findings about forbidden types only. -/
theorem onlyForbidden_visitAll
    (plain : host.IsPlain)
    {nodes : List Node}
    (visited : analyzer.visitAll host unit nodes = .ok next)
    (only : unit.OnlyForbidden analyzer.registry) :
    next.OnlyForbidden analyzer.registry := by
  induction nodes generalizing unit with
  | nil =>
      cases visited
      exact only
  | cons node rest induction =>
      rw [visitAll] at visited
      rcases bind_eq_ok.1 visited with ⟨⟨answer, middle⟩, first, others⟩
      exact induction others (onlyForbidden_visit plain first only).1

/-- The end of a unit hands over what it held, and leaves nothing. -/
theorem onlyForbidden_finish
    {findings : List Diagnostic}
    {registry : Registry}
    (finished : finish unit = .ok (findings, next))
    (only : unit.OnlyForbidden registry) :
    next.OnlyForbidden registry ∧ ∀ finding ∈ findings, finding.NamesForbidden registry := by
  rw [finish, Reporter.finish, Reporter.findings] at finished
  cases pending : unit.reporter.pending with
  | none =>
      rw [pending] at finished
      cases finished
  | some found =>
      rw [pending] at finished
      cases finished
      refine ⟨?_, only _ pending⟩
      intro held ended
      cases ended

/-- An analysis reports forbidden types only. -/
theorem namesForbidden_of_analyze
    (plain : host.IsPlain)
    {nodes : List Node}
    {findings : List Diagnostic}
    (done : analyzer.analyze family host nodes = .ok findings) :
    ∀ finding ∈ findings, finding.NamesForbidden analyzer.registry := by
  rw [analyze] at done
  rcases bind_eq_ok.1 done with ⟨unit, visited, rest⟩
  rcases bind_eq_ok.1 rest with ⟨⟨handed, next⟩, finished, same⟩
  cases same
  exact (onlyForbidden_finish finished
    (onlyForbidden_visitAll plain visited onlyForbidden_begin)).2

end Analyzer

namespace Session

variable {analyzer : Analyzer} {hosts : Nat → Host Node} {session : Session}

/-- A node is delivered to a unit that was begun, and only the unit changes. -/
theorem visit_eq_ok
    {host : Host Node}
    {number : Nat}
    {node : Node}
    {next : Session}
    {answer : Option Diagnostic}
    (delivered : session.visit analyzer host number node = .ok (answer, next)) :
    ∃ unit changed, session.unit? number = some unit ∧
      analyzer.visit host unit node = .ok (answer, changed) ∧
      next = session.setUnit number changed := by
  rw [visit] at delivered
  split at delivered
  · cases delivered
  · rename_i unit current
    split at delivered
    · cases delivered
    · rename_i visited
      cases delivered
      exact ⟨unit, _, current, visited, rfl⟩

/-- A unit that was begun is ended, and the sink has its findings behind what it had. -/
theorem finish_eq_ok
    {number : Nat}
    {next : Session}
    {findings : List Diagnostic}
    (ended : session.finish number = .ok (findings, next)) :
    ∃ unit closed, session.unit? number = some unit ∧
      Analyzer.finish unit = .ok (findings, closed) ∧
      next = { session.setUnit number closed with sink := session.sink ++ findings } := by
  rw [finish] at ended
  split at ended
  · cases ended
  · rename_i unit current
    split at ended
    · cases ended
    · rename_i finished
      cases ended
      exact ⟨unit, _, current, finished, rfl⟩

/-- A session has findings about forbidden types only, be they handed over or still held. -/
structure OnlyForbidden (registry : Registry) (session : Session) : Prop where
  sink : ∀ finding ∈ session.sink, finding.NamesForbidden registry
  units : ∀ number, ∀ unit ∈ session.unit? number, unit.OnlyForbidden registry

namespace OnlyForbidden

theorem start {registry : Registry} : Session.start.OnlyForbidden registry where
  sink := List.forall_mem_nil _
  units _ _ held := by cases held

theorem setUnit
    {registry : Registry}
    (only : session.OnlyForbidden registry)
    (number : Nat)
    {unit : UnitScan}
    (new : unit.OnlyForbidden registry) :
    (session.setUnit number unit).OnlyForbidden registry where
  sink := only.sink
  units := by
    intro other held
    rw [unit?_setUnit]
    split
    · rintro ⟨⟩
      exact new
    · exact only.units other held

/-- An event brings in findings about forbidden types only. -/
theorem after
    (plain : ∀ number, (hosts number).IsPlain)
    (only : session.OnlyForbidden analyzer.registry)
    (event : Event Node) :
    (session.after analyzer hosts event).OnlyForbidden analyzer.registry := by
  cases event with
  | begin number family => exact only.setUnit number Analyzer.onlyForbidden_begin
  | visit number node =>
      rw [Session.after]
      split
      · rename_i delivered
        rcases visit_eq_ok delivered with ⟨unit, changed, current, visited, rfl⟩
        have held := only.units number unit current
        exact only.setUnit number
          (Analyzer.onlyForbidden_visit (plain number) visited held).1
      · exact only
  | finish number =>
      rw [Session.after]
      split
      · rename_i ended
        rcases finish_eq_ok ended with ⟨unit, closed, current, finished, rfl⟩
        have held := only.units number unit current
        rcases Analyzer.onlyForbidden_finish finished held with ⟨nothing, handed⟩
        refine ⟨?_, (only.setUnit number nothing).units⟩
        intro finding member
        rcases List.mem_append.1 member with old | new
        · exact only.sink finding old
        · exact handed finding new
      · exact only

end OnlyForbidden

/-- Whatever happens to the units of a session, its findings are about forbidden types only. -/
theorem onlyForbidden_run
    (plain : ∀ number, (hosts number).IsPlain)
    (events : List (Event Node)) :
    (run analyzer hosts events).OnlyForbidden analyzer.registry := by
  induction events using List.reverseRecOn with
  | nil => exact .start
  | append_singleton events event induction =>
      rw [run, List.foldl_append]
      exact induction.after plain event

end Session

/--
Only forbidden types are reported, as long as the host's methods have plain
names.  Every finding of an analysis names one type, which has entries in the
registry, and nothing else reaches the sink; whatever a strategy finds by the
key of a member or by a type is found by the type.  The same holds of all units
of a session together, in whatever order their events come.
-/
theorem Analyzer.findings_name_forbidden_types
    (analyzer : Analyzer)
    {host : Host Node}
    (plain : host.IsPlain) :
    (∀ family nodes findings, analyzer.analyze family host nodes = .ok findings →
      ∀ finding ∈ findings, ∃ owner,
        finding.arguments = [owner] ∧ analyzer.registry.containsType owner = true) ∧
    (∀ (session : Session) family nodes findings next,
      session.analyze analyzer family host nodes = .ok (findings, next) →
      ∀ finding ∈ next.sink,
        finding ∈ session.sink ∨ finding.NamesForbidden analyzer.registry) ∧
    (∀ (strategy : Strategy) family node category name,
      strategy.find analyzer.registry family host node category = .ok (some name) →
      analyzer.registry.containsType name = true) ∧
    ∀ events, ∀ finding ∈ (Session.run analyzer (fun _ => host) events).sink,
      finding.NamesForbidden analyzer.registry := by
  refine ⟨fun _ _ _ done => namesForbidden_of_analyze plain done, ?_,
    fun _ _ _ _ _ found => Strategy.containsType_of_find plain found,
    fun events => (Session.onlyForbidden_run (fun _ => plain) events).sink⟩
  intro session family nodes findings next analyzed finding member
  rw [Session.analyze] at analyzed
  split at analyzed
  · cases analyzed
  · rename_i found done
    cases analyzed
    exact (List.mem_append.1 member).imp_right (namesForbidden_of_analyze plain done finding)

/-- A registry with a method that has the name of constructors but for the dot, and with a
constructor. -/
def timerRegistry : Registry where
  keys := NameSet.ofList ["Counter.ctor", "Timer..ctor"]
  members :=
    [⟨"Counter", "ctor", .staticMethod⟩, ⟨"Timer", constructorName, .constructor⟩]
  parsed := by decide
  types := NameSet.ofList ["Counter", "Timer"]
  types_eq := rfl

/-- A host with a call of the method and a creation of what has the constructor. -/
def timerHost : Host Bool where
  kind called := if called then "InvocationExpression" else "ObjectCreationExpression"
  location called := ⟨"Sample.cs", if called then 2 else 5, 0, none, none, true⟩
  child called _ := some called
  answer called :=
    if called then .symbol (.method ⟨"ctor", some { space := "", name := "Counter" }, true⟩)
    else .symbol (.type { space := "", name := "Timer" })

theorem isPlain_timerHost : timerHost.IsPlain := by
  intro called method answer
  cases called <;> cases answer
  exact ⟨by decide, by rintro owner ⟨⟩; decide⟩

/-- Both the call and the creation are reported, each under a type that the registry forbids. -/
theorem Analyzer.findings_name_forbidden_types_timerHost :
    timerHost.IsPlain ∧
      ∃ findings,
        Analyzer.analyze { registry := timerRegistry } .csharp timerHost [true, false] =
          .ok findings ∧
        findings.map (·.arguments) = [["Counter"], ["Timer"]] ∧
        ∀ finding ∈ findings, finding.NamesForbidden timerRegistry := by
  have done : Analyzer.analyze { registry := timerRegistry } .csharp timerHost [true, false] =
      .ok [⟨.appOnly, timerHost.location true, ["Counter"]⟩,
        ⟨.appOnly, timerHost.location false, ["Timer"]⟩] := rfl
  refine ⟨isPlain_timerHost, _, done, rfl, ?_⟩
  exact (findings_name_forbidden_types { registry := timerRegistry } isPlain_timerHost).1 _ _ _
    done

end WinrtLint
