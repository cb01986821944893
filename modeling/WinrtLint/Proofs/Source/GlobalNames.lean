import WinrtLint.Proofs.Source.VisibleValues

/-!
# Names meant from the top

The mark of a name that is meant from the top is dropped before the name is
bound, so such a name binds as if it stood there without its mark: it is taken
as fully qualified only where nothing comes before it.  For a receiver the mark
is looked for once more, in the text as it stands, to keep values from hiding
the type; there it is missed where a blank stands inside it.
-/

namespace WinrtLint.Source

open Sample

theorem Model.resolve_of_fromTop
    {text name : String}
    (marked : DottedName.FromTop text name)
    (dotted : DottedName.isDotted name.toList = true)
    (model : Model)
    (ancestors : List Tree) :
    model.resolve text ancestors = model.resolveName name ancestors := by
  rw [resolve, marked.ofText?_eq dotted, Option.bind_some]

theorem Model.accessedMethod_of_fromTop
    {text name : String}
    (marked : DottedName.FromTop text name)
    (dotted : DottedName.isDotted name.toList = true)
    (model : Model)
    (method : String)
    (ancestors : List Tree) :
    model.accessedMethod text method ancestors = model.accessedMethod name method ancestors := by
  have same : model.resolve text ancestors = model.resolve name ancestors := by
    rw [resolve_of_fromTop marked dotted, resolve, DottedName.ofText?_of_isDotted dotted,
      Option.bind_some]
  rw [accessedMethod, same, accessedMethod]

/--
A name behind the mark of a name meant from the top binds as the name without
it, and so as fully qualified wherever nothing comes before it.  As the receiver
of a call it is bound whatever values are visible if the mark is unbroken; a
blank inside the mark leaves the call to the values.
-/
theorem Model.marked_name_bound_unmarked
    (catalog : Catalog)
    (root : Tree)
    {text name : String}
    (dotted : DottedName.isDotted name.toList = true)
    (marked : DottedName.FromTop text name) :
    (∀ ancestors, (Model.ofTree catalog root).resolve text ancestors =
      (Model.ofTree catalog root).resolveName name ancestors) ∧
    (∀ ancestors, (Model.ofTree catalog root).Unclaimed name ancestors →
      (Model.ofTree catalog root).resolve text ancestors =
        (Model.ofTree catalog root).lookup name) ∧
    ∀ access ∈ root.sites, ∀ receiver method, access.node.kind = .memberAccess →
      access.node.childIn? .expression = some receiver → receiver.text = text →
      (access.node.childIn? .name).bind Tree.simpleName? = some method →
      (DottedName.Unbroken text →
        (Model.ofTree catalog root).symbolAt (some .expression) access =
          .ok (((Model.ofTree catalog root).accessedMethod name method
            access.ancestors).map Symbol.method)) ∧
      (¬ DottedName.Unbroken text → root.kind ≠ .globalStatement →
        (access.Sees (DottedName.head name) →
          (Model.ofTree catalog root).symbolAt (some .expression) access = .ok none) ∧
        (¬ access.Sees (DottedName.head name) →
          (Model.ofTree catalog root).symbolAt (some .expression) access =
            .ok (((Model.ofTree catalog root).accessedMethod name method
              access.ancestors).map Symbol.method))) := by
  refine ⟨resolve_of_fromTop marked dotted _, ?_, ?_⟩
  · intro ancestors unclaimed
    rw [resolve_of_fromTop marked dotted, unclaimed.resolveName]
  · intro access inside receiver method isAccess receiving spelled named
    have accessed := accessedMethod_of_fromTop marked dotted (Model.ofTree catalog root) method
      access.ancestors
    have first : DottedName.leading receiver.text = DottedName.head name := by
      rw [spelled]
      exact (DottedName.head_eq_leading (marked.ofText?_eq dotted)).symm
    rw [symbolAt, if_pos rfl, ← accessed]
    constructor
    · intro unbroken
      rw [invocationSymbol_access isAccess receiving named, spelled, valueCandidate?,
        if_pos (DottedName.beginsGlobal_iff.2 unbroken)]
      rfl
    · intro broken rooted
      constructor
      · intro seen
        have unmarked : DottedName.beginsGlobal receiver.text = false := by
          rw [spelled, ← Bool.not_eq_true, DottedName.beginsGlobal_iff]
          exact broken
        rcases invocationSymbol_of_sees inside isAccess receiving unmarked (first ▸ seen) with
          absent | ⟨isStatement, -⟩
        · rw [absent]
          rfl
        · exact absurd isStatement rooted
      · intro unseen
        rw [invocationSymbol_of_not_sees inside rooted isAccess receiving named (first ▸ unseen),
          spelled]
        rfl

namespace Sample

/-- A directive that gives a short name. -/
def shortNaming (short target : String) : Tree :=
  phrase .usingDirective none
    [phrase .nameEquals none [word .identifier none short], word .identifier none target]

/-- A method with a parameter that calls a listed method through a receiver, below directives. -/
def receiverRoot (directives : List Tree) (parameter receiver : String) :
    Tree :=
  phrase .compilationUnit none
    (directives ++
      [classOf "Owner"
        [methodOf "Run" [phrase .parameter none [word .identifier (some .name) parameter]]
          [callThrough receiver "Read"]]])

/-- A call through the full name of a listed type beside a parameter named like its namespace. -/
def hiddenSpaceRoot : Tree :=
  receiverRoot [] "Sample" "global::Sample.Counter"

/-- A unit in which a short name stands for another namespace than the one of that name. -/
def shortNameRoot : Tree :=
  receiverRoot [shortNaming "Sample" "Other"] "value" "global::Sample.Counter"

/-- What the calls of a unit bind to beside the listed types. -/
def boundCalls (root : Tree) : List (Option Symbol) :=
  (root.sites.filter (·.node.kind = .invocation)).filterMap fun call =>
    (call.childIn? .function).bind fun access =>
      ((Model.ofTree sampleScanner.catalog root).symbolAt (some .expression) access).toOption

end Sample

theorem Model.marked_name_bound_unmarked_hiddenSpaceRoot :
    (Model.ofTree sampleScanner.catalog hiddenSpaceRoot).resolve "global::Sample.Counter" [] =
        (Model.ofTree sampleScanner.catalog hiddenSpaceRoot).lookup "Sample.Counter" ∧
      ∃ call ∈ hiddenSpaceRoot.sites, ∃ access ∈ call.childIn? .function,
        access.valueNames.toOption.map (·.contains "Sample") = some true ∧
        ((Model.ofTree sampleScanner.catalog hiddenSpaceRoot).symbolAt (some .expression)
            access).toOption =
          some (some (.method ⟨"Read", some { space := "Sample", name := "Counter" }, true⟩)) := by
  let call := hiddenSpaceRoot.sites.get ⟨10, by decide +kernel⟩
  let access := (call.childIn? .function).get (by decide +kernel)
  let receiver := (access.node.childIn? .expression).get (by decide +kernel)
  have inside : access ∈ hiddenSpaceRoot.sites :=
    Tree.mem_sites_of_childIn? (List.get_mem _ _) (Option.some_get _).symm
  have unbroken : DottedName.Unbroken "global::Sample.Counter" :=
    DottedName.beginsGlobal_iff.1 (by decide +kernel)
  have marked : DottedName.FromTop "global::Sample.Counter" "Sample.Counter" := by decide +kernel
  have bound :=
    marked_name_bound_unmarked sampleScanner.catalog hiddenSpaceRoot (by decide +kernel) marked
  refine ⟨bound.2.1 [] ⟨by decide +kernel, by decide +kernel, by decide +kernel⟩, call,
    List.get_mem _ _, access, Option.get_mem _, by decide +kernel, ?_⟩
  rw [(bound.2.2 access inside receiver "Read" (by decide +kernel) (Option.some_get _).symm
    (by decide +kernel) (by decide +kernel)).1 unbroken]
  decide +kernel

/-- A short name changes what a name meant from the top binds to, and a blank inside the mark lets a
parameter hide the type. -/
theorem Model.global_mark_lost :
    DottedName.FromTop "global::Sample.Counter" "Sample.Counter" ∧
      DottedName.FromTop "global :: Sample.Counter" "Sample.Counter" ∧
      ((Model.ofTree sampleScanner.catalog shortNameRoot).lookup "Sample.Counter").isSome = true ∧
      ((Model.ofTree sampleScanner.catalog shortNameRoot).resolve "global::Sample.Counter"
        [shortNameRoot]).isNone = true ∧
      boundCalls (receiverRoot [] "value" "global :: Sample.Counter") =
        [some (.method ⟨"Read", some { space := "Sample", name := "Counter" }, true⟩)] ∧
      boundCalls (receiverRoot [] "Sample" "global :: Sample.Counter") = [none] := by
  decide +kernel

end WinrtLint.Source
