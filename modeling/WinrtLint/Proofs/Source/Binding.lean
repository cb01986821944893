import WinrtLint.Proofs.Source.Sites
import WinrtLint.Proofs.Text.Cuts
import WinrtLint.Source.Scan

/-!
# How names and calls are bound

A name is taken as fully qualified where no alias stands for its first
identifier and no namespace around it, or opened for a single identifier, has
a type of that name (`Unclaimed.resolveName`).

A call through a member access is bound in two steps: its receiver must not
stand for a value, and must name a type (`invocationSymbol_access`).  Binding
breaks down in one case only: the values around a top-level statement that
stands in no unit cannot be gathered (`valueNames_eq_error`), and for a site of
a tree that means that the root is such a statement.
-/

namespace WinrtLint.Source

theorem localScope?_eq_error
    {address : List Nat}
    {ancestors : List Tree}
    {failure : HostFailure}
    (failed : localScope? address ancestors = .error failure) :
    failure = .statementOutsideUnit ∧
      ∃ top, ancestors.getLast? = some top ∧ top.kind = .globalStatement := by
  fun_induction localScope? address ancestors with
  | case1 => cases failed
  | case2 position address ancestor member statement =>
      cases failed
      exact ⟨rfl, ancestor, rfl, statement⟩
  | case3 => cases failed
  | case4 position address ancestor above member statement induction =>
      rcases induction failed with ⟨rfl, top, last, isStatement⟩
      refine ⟨rfl, top, ?_, isStatement⟩
      rw [List.getLast?_cons, last]
      rfl
  | case5 => cases failed

namespace Site

theorem valueNames_eq_error
    {site : Site}
    {failure : HostFailure}
    (failed : site.valueNames = .error failure) :
    failure = .statementOutsideUnit ∧
      ∃ top, site.ancestors.getLast? = some top ∧ top.kind = .globalStatement := by
  rw [valueNames, localScope?] at failed
  cases scope : Source.localScope? site.address site.ancestors with
  | error other =>
      rw [scope] at failed
      cases failed
      exact localScope?_eq_error scope
  | ok found =>
      rw [scope] at failed
      cases found <;> cases failed

/-- Values cannot be gathered at a site of a tree only where the root is a top-level statement. -/
theorem valueNames_eq_error_of_mem_sites
    {root : Tree}
    {site : Site}
    {failure : HostFailure}
    (inside : site ∈ root.sites)
    (failed : site.valueNames = .error failure) :
    failure = .statementOutsideUnit ∧ root.kind = .globalStatement := by
  rcases valueNames_eq_error failed with ⟨same, top, last, isStatement⟩
  have atRoot := Tree.getLast?_of_mem_sites inside
  rw [List.getLast?_cons, last] at atRoot
  cases atRoot
  exact ⟨same, isStatement⟩

end Site

namespace Model

/-- Neither the unit nor the library has a type of a qualified name. -/
def Lacks (model : Model) (qualified : String) : Prop :=
  model.declarations.types.get? qualified = none ∧ model.catalog.get? qualified = none

instance (model : Model) (qualified : String) :
    Decidable (model.Lacks qualified) :=
  inferInstanceAs (Decidable (_ ∧ _))

/-- Nothing below the given ancestors comes before a name taken as fully qualified. -/
structure Unclaimed
    (model : Model)
    (name : String)
    (ancestors : List Tree) : Prop where
  no_alias : model.declarations.aliases.get? (DottedName.head name) = none
  not_enclosed : ∀ space ∈ model.declarations.namespacesAt ancestors,
    model.Lacks (DottedName.under space name)
  not_imported : '.' ∉ name.toList → ∀ space ∈ model.declarations.usings,
    model.Lacks (DottedName.under space name)

variable {model : Model}

theorem lookup_eq_none {qualified : String} :
    model.lookup qualified = none ↔ model.Lacks qualified := by
  rw [lookup, Lacks]
  cases model.declarations.types.get? qualified <;> simp

theorem lookupUnder_eq_none {name : String} {spaces : List String} :
    model.lookupUnder name spaces = none ↔
      ∀ space ∈ spaces, model.Lacks (DottedName.under space name) := by
  simp only [lookupUnder, List.findSome?_eq_none_iff, lookup_eq_none]

/-- A name that nothing comes before is taken as fully qualified. -/
theorem Unclaimed.resolveName
    {name : String}
    {ancestors : List Tree}
    (unclaimed : model.Unclaimed name ancestors) :
    model.resolveName name ancestors = model.lookup name := by
  have enclosed : model.lookupUnder name (model.declarations.namespacesAt ancestors) = none :=
    lookupUnder_eq_none.2 unclaimed.not_enclosed
  have imported : model.lookupUnder name
      (if (DottedName.split name).2.isNone then model.declarations.usings else []) = none := by
    split
    · rename_i single
      have dotFree : '.' ∉ name.toList := by
        simpa [DottedName.split, Text.cutFirst_snd_eq_none] using single
      exact lookupUnder_eq_none.2 (unclaimed.not_imported dotFree)
    · rfl
  have unaliased : model.declarations.aliases.get? (DottedName.split name).1 = none :=
    unclaimed.no_alias
  simp only [Model.resolveName, unaliased, enclosed, imported, Option.none_or]

theorem invocationSymbol_access
    {site : Site}
    {receiver : Tree}
    {method : String}
    (access : site.node.kind = .memberAccess)
    (receiving : site.node.childIn? .expression = some receiver)
    (named : (site.node.childIn? .name).bind Tree.simpleName? = some method) :
    model.invocationSymbol site =
      match valueCandidate? receiver.text with
      | none => .ok (model.accessedMethod receiver.text method site.ancestors)
      | some head =>
          site.valueNames.map fun values =>
            if values.contains head then none
            else model.accessedMethod receiver.text method site.ancestors := by
  rw [invocationSymbol, invocationSymbolWith, if_pos access, receiving, named]
  dsimp only
  cases valueCandidate? receiver.text with
  | none => rfl
  | some head =>
      cases site.valueNames with
      | error failure => rfl
      | ok values =>
          simp only [pure_bind, Except.map]
          cases values.contains head <;> rfl

theorem invocationSymbol_eq_error
    {site : Site}
    {failure : HostFailure}
    (failed : model.invocationSymbol site = .error failure) :
    site.valueNames = .error failure := by
  by_cases access : site.node.kind = .memberAccess
  · cases receiving : site.node.childIn? .expression with
    | none =>
        rw [invocationSymbol, invocationSymbolWith, if_pos access, receiving] at failed
        cases failed
    | some receiver =>
        cases named : (site.node.childIn? .name).bind Tree.simpleName? with
        | none =>
            rw [invocationSymbol, invocationSymbolWith, if_pos access, receiving, named] at failed
            cases failed
        | some method =>
            rw [invocationSymbol_access access receiving named] at failed
            split at failed
            · cases failed
            · cases outcome : site.valueNames with
              | error other =>
                  rw [outcome] at failed
                  cases failed
                  rfl
              | ok values =>
                  rw [outcome] at failed
                  cases failed
  · rw [invocationSymbol, invocationSymbolWith, if_neg access] at failed
    cases failed

/-- Binding breaks down at a site of a tree only where the root is a top-level statement. -/
theorem answer_eq_failed
    {root : Tree}
    {node : HostSite}
    {failure : HostFailure}
    (inside : node.site ∈ root.sites)
    (failed : model.answer node = .failed failure) :
    failure = .statementOutsideUnit ∧ root.kind = .globalStatement := by
  rw [answer, symbolAt] at failed
  by_cases target : node.role = some .expression
  · rw [if_pos target] at failed
    cases outcome : model.invocationSymbol node.site with
    | ok found =>
        rw [outcome] at failed
        cases found <;> cases failed
    | error other =>
        rw [outcome] at failed
        cases failed
        exact Site.valueNames_eq_error_of_mem_sites inside (invocationSymbol_eq_error outcome)
  · rw [if_neg target] at failed
    cases symbol : model.typeSymbol node.site <;> rw [symbol] at failed <;> cases failed

end Model

end WinrtLint.Source
