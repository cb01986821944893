import WinrtLint.Source.Binding

/-!
# Remembered scopes

Gathering the names declared in a scope takes a walk over it.  A memo keeps
what was gathered, by the address of the scope, so that many questions about
one unit walk over each scope once.
-/

namespace WinrtLint.Source

/-- The names gathered so far, by the address of their scope. -/
abbrev Memo : Type :=
  List (List Nat × NameSet)

/-- A question about a unit: which symbol is at a site in a role. -/
structure Query where
  role : Option Role
  site : Site

namespace Memo

/-- The names declared in a scope, from the memo if they are there. -/
def localNames (scope : Scope) : StateM Memo NameSet := do
  let memo ← get
  match memo.lookup scope.address with
  | some names => return names
  | none =>
      let names := scope.node.localNames
      set ((scope.address, names) :: memo)
      return names

/-- The names of all values for which a simple name could stand at a site. -/
def valueNames (site : Site) : StateM Memo (Except HostFailure NameSet) :=
  match site.localScope? with
  | .error failure => return .error failure
  | .ok none => return .ok site.memberNames
  | .ok (some scope) => do
      let names ← localNames scope
      return .ok (site.memberNames.union names)

/-- Answer one question. -/
def ask (model : Model) (query : Query) :
    StateM Memo (Except HostFailure (Option Symbol)) :=
  if query.role = some .expression then do
    let found ← model.invocationSymbolWith valueNames query.site
    return found.map fun found => found.map Symbol.method
  else return .ok ((model.typeSymbol query.site).map Symbol.type)

/-- Answer questions one after another. -/
def askAll (model : Model) :
    List Query → StateM Memo (List (Except HostFailure (Option Symbol)))
  | [] => return []
  | query :: rest => do
      let answer ← ask model query
      let answers ← askAll model rest
      return answer :: answers

end Memo

end WinrtLint.Source
