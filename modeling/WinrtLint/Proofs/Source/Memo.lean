import WinrtLint.Proofs.Source.VisibleValues
import WinrtLint.Source.Memo

/-!
# Answers from remembered scopes

A scope is reached from many sites, and a node that holds top-level statements
may be a member declaration besides.  The memo of a unit knows scopes by their
addresses, and at one address of a tree there is one node (`Leads.at?_eq`), so
what was gathered on one way serves on every other.

A memo is sound where each entry has the names that are declared in the scope at
its address.  A step recalls a result if it gives that result from any sound memo
and leaves a sound one (`Memo.Recalls`); steps that recall can be put together,
and each question is one (`Memo.recalls_ask`).  Hence answers depend neither on
the questions before nor on their order (`Memo.answers_independent`).
-/

namespace WinrtLint.Source

/-! ## The node at an address -/

namespace Tree

/-- The node at an address of a tree, whose last position is among the children of the root. -/
def at? (root : Tree) : List Nat → Option Tree
  | [] => some root
  | position :: address => (root.at? address).bind fun parent => parent.children[position]?

/-- An address leads to the first node of a way up that ends at the root. -/
inductive Leads (root : Tree) : List Nat → List Tree → Prop
  | start : Leads root [] [root]
  | child
      {address : List Nat}
      {parent child : Tree}
      {above : List Tree}
      {position : Nat}
      (before : Leads root address (parent :: above))
      (found : parent.children[position]? = some child) :
      Leads root (position :: address) (child :: parent :: above)

variable {root : Tree} {site : Site}

theorem Leads.at?_eq
    {address : List Nat}
    {node : Tree}
    {above : List Tree}
    (leads : Leads root address (node :: above)) :
    root.at? address = some node := by
  generalize way : node :: above = trees at leads
  induction leads generalizing node above with
  | start =>
      cases way
      rfl
  | child before found induction =>
      cases way
      rw [at?, induction rfl]
      exact found

theorem leads_of_mem_below
    {top : Site}
    (leads : Leads root top.address (top.node :: top.ancestors))
    (inside : site ∈ top.below) :
    Leads root site.address (site.node :: site.ancestors) := by
  induction top using Site.induction_children with
  | step top induction =>
      rw [Site.below_eq] at inside
      rcases List.mem_cons.1 inside with rfl | later
      · exact leads
      · rcases List.mem_flatMap.1 later with ⟨child, member, deeper⟩
        refine induction child member ?_ deeper
        rcases List.mem_map.1 member with ⟨⟨tree, position⟩, listed, rfl⟩
        exact .child leads (List.mk_mem_zipIdx_iff_getElem?.1 listed)

theorem leads_of_mem_sites (inside : site ∈ root.sites) :
    Leads root site.address (site.node :: site.ancestors) := by
  let top : Site := ⟨root, [], []⟩
  have leads : Leads root top.address (top.node :: top.ancestors) := .start
  exact leads_of_mem_below leads inside

/-- The scope around a site stands at its address. -/
theorem Leads.scope
    {address : List Nat}
    {ancestors : List Tree}
    {node : Tree}
    {scope : Scope}
    (leads : Leads root address (node :: ancestors))
    (found : localScope? address ancestors = .ok (some scope)) :
    root.at? scope.address = some scope.node := by
  fun_induction localScope? address ancestors generalizing node with
  | case1 position address ancestor above isMember =>
      cases found
      cases leads with
      | child before _ => exact before.at?_eq
  | case2 => cases found
  | case3 position address ancestor isMember isStatement holder above =>
      -- The scope is that of the node which holds the statement, one step further up.
      cases found
      cases leads with
      | child before _ =>
          cases before with
          | child holding _ => exact holding.at?_eq
  | case4 position address ancestor above isMember isStatement induction =>
      cases leads with
      | child before _ => exact induction before found
  | case5 => cases found

end Tree

/-! ## Sound memos -/

namespace Memo

/-- Each entry has the names that are declared in the scope at its address. -/
def Sound (root : Tree) (memo : Memo) : Prop :=
  ∀ entry ∈ memo, ∃ scope, root.at? entry.1 = some scope ∧ entry.2 = scope.localNames

variable {root : Tree} {memo : Memo}

theorem sound_nil : Sound root [] :=
  fun _ listed => absurd listed List.not_mem_nil

theorem Sound.lookup
    (sound : Sound root memo)
    {scope : Scope}
    {names : NameSet}
    (placed : root.at? scope.address = some scope.node)
    (found : memo.lookup scope.address = some names) :
    names = scope.node.localNames := by
  rcases List.lookup_eq_some_iff.1 found with ⟨before, after, rfl, -⟩
  rcases sound (scope.address, names) (by simp) with ⟨other, stands, gathered⟩
  rw [placed] at stands
  cases stands
  exact gathered

theorem Sound.remember
    (sound : Sound root memo)
    {scope : Scope}
    (placed : root.at? scope.address = some scope.node) :
    Sound root ((scope.address, scope.node.localNames) :: memo) := by
  intro entry listed
  rcases List.mem_cons.1 listed with rfl | earlier
  · exact ⟨scope.node, placed, rfl⟩
  · exact sound entry earlier

/-! ## Steps that recall -/

/-- From any sound memo a step gives the same result and leaves a sound memo. -/
def Recalls
    (root : Tree)
    {Result : Type}
    (step : StateM Memo Result)
    (result : Result) :
    Prop :=
  ∀ memo, Sound root memo → (step.run memo).1 = result ∧ Sound root (step.run memo).2

section Recalls

variable {First Result : Type}

theorem Recalls.pure {result : Result} : Recalls root (pure result) result :=
  fun _ sound => ⟨rfl, sound⟩

theorem Recalls.bind
    {first : StateM Memo First}
    {next : First → StateM Memo Result}
    {middle : First}
    {result : Result}
    (before : Recalls root first middle)
    (after : Recalls root (next middle) result) :
    Recalls root (first >>= next) result := by
  intro memo sound
  rcases before memo sound with ⟨same, kept⟩
  subst same
  exact after _ kept

end Recalls

theorem recalls_localNames
    {scope : Scope}
    (placed : root.at? scope.address = some scope.node) :
    Recalls root (localNames scope) scope.node.localNames := by
  intro memo sound
  cases found : memo.lookup scope.address with
  | some names =>
      have run : (localNames scope).run memo = (names, memo) := by
        simp only [localNames, StateT.run_bind, StateT.run_get, pure_bind, found]
        rfl
      rw [run]
      exact ⟨sound.lookup placed found, sound⟩
  | none =>
      have run : (localNames scope).run memo =
          (scope.node.localNames, (scope.address, scope.node.localNames) :: memo) := by
        simp only [localNames, StateT.run_bind, StateT.run_get, pure_bind, found]
        rfl
      rw [run]
      exact ⟨rfl, sound.remember placed⟩

theorem recalls_valueNames {site : Site} (inside : site ∈ root.sites) :
    Recalls root (valueNames site) site.valueNames := by
  rw [valueNames, Site.valueNames]
  cases found : site.localScope? with
  | error failure => exact .pure
  | ok scope =>
      cases scope with
      | none => exact .pure
      | some scope =>
          have placed := (Tree.leads_of_mem_sites inside).scope found
          exact (recalls_localNames placed).bind .pure

variable {model : Model}

theorem recalls_invocationSymbol {site : Site} (inside : site ∈ root.sites) :
    Recalls root (model.invocationSymbolWith valueNames site) (model.invocationSymbol site) := by
  rw [Model.invocationSymbol, Model.invocationSymbolWith, Model.invocationSymbolWith]
  by_cases access : site.node.kind = .memberAccess
  · rw [if_pos access, if_pos access]
    split
    · rename_i receiver method _ _
      cases candidate : Model.valueCandidate? receiver.text with
      | none => exact .pure
      | some head =>
          refine (recalls_valueNames inside).bind ?_
          cases outcome : site.valueNames with
          | error failure => exact .pure
          | ok values =>
              dsimp only
              rw [pure_bind]
              dsimp only
              split
              · exact .pure
              · exact .pure
    · exact .pure
  · rw [if_neg access, if_neg access]
    exact .pure

theorem recalls_ask {query : Query} (inside : query.site ∈ root.sites) :
    Recalls root (ask model query) (model.symbolAt query.role query.site) := by
  rw [ask, Model.symbolAt]
  by_cases target : query.role = some .expression
  · rw [if_pos target, if_pos target]
    exact (recalls_invocationSymbol inside).bind .pure
  · rw [if_neg target, if_neg target]
    exact .pure

theorem recalls_askAll
    (model : Model)
    {queries : List Query}
    (inside : ∀ query ∈ queries, query.site ∈ root.sites) :
    Recalls root (askAll model queries)
      (queries.map fun query => model.symbolAt query.role query.site) := by
  induction queries with
  | nil => exact .pure
  | cons query rest induction =>
      rw [List.forall_mem_cons] at inside
      exact (recalls_ask inside.1).bind ((induction inside.2).bind .pure)

/-! ## All answers -/

theorem symbolAt_ok
    (rooted : root.kind ≠ .globalStatement)
    {role : Option Role}
    {site : Site}
    (inside : site ∈ root.sites) :
    ∃ symbol, model.symbolAt role site = .ok symbol := by
  rw [Model.symbolAt]
  by_cases target : role = some .expression
  · rw [if_pos target]
    cases outcome : model.invocationSymbol site with
    | ok found => exact ⟨_, rfl⟩
    | error failure =>
        have failed := Model.invocationSymbol_eq_error outcome
        exact absurd (Site.valueNames_eq_error_of_mem_sites inside failed).2 rooted
  · rw [if_neg target]
    exact ⟨_, rfl⟩

/--
However many questions are asked about a unit, each is answered, and as it would
be alone; so a question has one answer wherever it stands among others.  The
memo has the names that are introduced in each scope that it knows, and no more.
-/
theorem answers_independent
    (catalog : Catalog)
    {root : Tree}
    {queries : List Query}
    (rooted : root.kind ≠ .globalStatement)
    (inside : ∀ query ∈ queries, query.site ∈ root.sites) :
    let model := Model.ofTree catalog root
    let outcome := (askAll model queries).run []
    outcome.1 = queries.map (fun query => ((ask model query).run []).1) ∧
      (∀ answer ∈ outcome.1, ∃ symbol, answer = .ok symbol) ∧
      (∀ others : List Query, (∀ query ∈ others, query.site ∈ root.sites) →
        ∀ (here there : Nat) (query : Query), queries[here]? = some query →
          others[there]? = some query →
          outcome.1[here]? = ((askAll model others).run []).1[there]?) ∧
      ∀ entry ∈ outcome.2, ∃ scope, root.at? entry.1 = some scope ∧
        ∀ name, name ∈ entry.2 ↔
          name ≠ "" ∧ ∃ node, scope.Gathers node ∧ node.Introduces name := by
  intro model outcome
  rcases recalls_askAll model inside [] sound_nil with ⟨answers, sound⟩
  have alone : queries.map (fun query => ((ask model query).run []).1) =
      queries.map fun query => model.symbolAt query.role query.site :=
    List.map_congr_left fun query asked => (recalls_ask (inside query asked) [] sound_nil).1
  refine ⟨answers.trans alone.symm, ?_, ?_, ?_⟩
  · intro answer given
    rw [answers] at given
    rcases List.mem_map.1 given with ⟨query, asked, rfl⟩
    exact symbolAt_ok rooted (inside query asked)
  · intro others othersInside here there query asked askedAgain
    rw [answers, (recalls_askAll model othersInside [] sound_nil).1, List.getElem?_map,
      List.getElem?_map, asked, askedAgain]
  · intro entry listed
    rcases sound entry listed with ⟨scope, stands, gathered⟩
    refine ⟨scope, stands, fun name => ?_⟩
    rw [gathered, Tree.mem_localNames]

end Memo

namespace Sample

/-- Two methods that call alike.  The first has a parameter that is named like the listed type,
and holds a top-level statement, whose scope it is too. -/
def sharedScopeRoot : Tree :=
  phrase .compilationUnit none
    [opening "Sample",
      phrase (.memberDeclaration .method) none
        [phrase .parameterList (some .parameters)
            [phrase .parameter none [word .identifier (some .name) "Counter"]],
          phrase .globalStatement none [callThrough "Counter" "Read"],
          callThrough "Counter" "Read"],
      methodOf "Run" [] [callThrough "Counter" "Read"]]

/-- The targets of all calls in a unit, asked for from the first to the last and back. -/
def thereAndBack (root : Tree) : List Query :=
  let targets := root.sites.filter (·.node.kind = .memberAccess)
  (targets ++ targets.reverse).map fun site => ⟨some .expression, site⟩

theorem site_mem_of_mem_thereAndBack
    {root : Tree}
    {query : Query}
    (asked : query ∈ thereAndBack root) :
    query.site ∈ root.sites := by
  rcases List.mem_map.1 asked with ⟨site, listed, rfl⟩
  have target : site ∈ root.sites.filter (·.node.kind = .memberAccess) := by
    simpa using listed
  exact List.mem_of_mem_filter target

end Sample

open Sample

/-- The first method is gathered once, for the call in its statement and the one beside it. -/
theorem Memo.answers_independent_sharedScopeRoot :
    let model := Model.ofTree sampleScanner.catalog sharedScopeRoot
    let queries := thereAndBack sharedScopeRoot
    let outcome := (askAll model queries).run []
    let read : Symbol := .method ⟨"Read", some { space := "Sample", name := "Counter" }, true⟩
    outcome.1 = queries.map (fun query => ((ask model query).run []).1) ∧
      outcome.1.map Except.toOption =
        [some none, some none, some (some read), some (some read), some none, some none] ∧
      outcome.2.map Prod.fst = [[2], [1]] := by
  refine ⟨(answers_independent sampleScanner.catalog (by decide +kernel)
    fun query => site_mem_of_mem_thereAndBack).1, ?_, ?_⟩
  · decide +kernel
  · decide +kernel

end WinrtLint.Source
