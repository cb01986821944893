import WinrtLint.Archive.Extraction
import WinrtLint.Proofs.Catalog.Regrouping

/-!
# Two ways to a catalog

The catalog of extracted types can be made of them directly, or it can be
inferred from the denylist that is extracted from them.  The second way goes
through keys, which are sorted, cut and grouped again.  It loses nothing about a
forbidden class: a key is cut back into the class and the member of which it was
made (`Member.parse_memberKey_eq_ok`), so the registry's members are those of the
forbidden types (`exists_registry`), and both catalogs list such a class with
the same members (`inferred_agrees_with_extracted`).
-/

namespace WinrtLint

/-! ## The registry of an extraction -/

section Extraction

variable {types : List RetainedType} {forbidden : NameSet}

/-- A forbidden class has a member of some name among extracted types. -/
def Extracts
    (types : List RetainedType)
    (forbidden : NameSet)
    (owner name : String) :
    Prop :=
  owner ∈ forbidden ∧ ∃ type ∈ types, type.qualifiedName = owner ∧ name ∈ type.members

theorem mem_denylistEntries {key : String} :
    key ∈ denylistEntries types forbidden ↔
      ∃ owner name, Extracts types forbidden owner name ∧ memberKey owner name = key := by
  simp only [denylistEntries, List.mem_flatMap]
  constructor
  · rintro ⟨type, among, listed⟩
    split at listed
    · rename_i forbid
      rcases List.mem_map.1 listed with ⟨name, member, rfl⟩
      exact ⟨_, name, ⟨NameSet.contains_iff.1 forbid, type, among, rfl, member⟩, rfl⟩
    · cases listed
  · rintro ⟨owner, name, ⟨forbid, type, among, rfl, member⟩, rfl⟩
    refine ⟨type, among, ?_⟩
    rw [if_pos (NameSet.contains_iff.2 forbid)]
    exact List.mem_map_of_mem member

/-- The keys of an extraction make a registry, and its members are those that were extracted. -/
theorem exists_registry
    (memberNames : ∀ type ∈ types, ∀ name ∈ type.members,
      name = constructorName ∨ name ≠ "" ∧ '.' ∉ name.toList)
    (classNames : ∀ owner ∈ forbidden, owner ≠ "" ∧ owner.toList.getLast? ≠ some '.') :
    ∃ registry, Registry.ofEntries (denylistEntries types forbidden) = .ok registry ∧
      ∀ owner name,
        (∃ member ∈ registry.members, member.owner = owner ∧ member.name = name) ↔
          Extracts types forbidden owner name := by
  have parsed : ∀ owner name, Extracts types forbidden owner name →
      ∃ kind, Member.parse (memberKey owner name) = .ok ⟨owner, name, kind⟩ := by
    rintro owner name ⟨forbid, type, among, -, member⟩
    refine Member.parse_memberKey_eq_ok (classNames owner forbid).1 ?_
    rcases memberNames type among name member with constructor | ⟨named, dotFree⟩
    · exact Or.inl constructor
    · exact Or.inr ⟨named, dotFree, (classNames owner forbid).2⟩
  have named : ∀ key ∈ NameSet.ofList (denylistEntries types forbidden),
      ∃ member, Member.parse key = .ok member := by
    intro key listed
    rcases mem_denylistEntries.1 (NameSet.mem_ofList.1 listed) with ⟨owner, name, extracts, rfl⟩
    rcases parsed owner name extracts with ⟨kind, read⟩
    exact ⟨_, read⟩
  rcases Registry.exists_ofKeys named with ⟨registry, built, keys⟩
  refine ⟨registry, built, ?_⟩
  intro owner name
  simp only [Registry.mem_members, keys, NameSet.mem_ofList, mem_denylistEntries]
  constructor
  · rintro ⟨member, ⟨key, ⟨otherOwner, otherName, extracts, rfl⟩, read⟩, rfl, rfl⟩
    rcases parsed otherOwner otherName extracts with ⟨kind, same⟩
    rw [read] at same
    cases same
    exact extracts
  · intro extracts
    rcases parsed owner name extracts with ⟨kind, read⟩
    exact ⟨_, ⟨_, ⟨owner, name, extracts, rfl⟩, read⟩, rfl, rfl⟩

/-- Where types of one name have the same members, each of them tells what is extracted. -/
theorem extracts_iff
    {type : RetainedType}
    {name : String}
    (sameMembers : ∀ first ∈ types, ∀ second ∈ types,
      first.qualifiedName = second.qualifiedName →
      ∀ name, name ∈ first.members ↔ name ∈ second.members)
    (among : type ∈ types)
    (forbid : type.qualifiedName ∈ forbidden) :
    Extracts types forbidden type.qualifiedName name ↔ name ∈ type.members := by
  constructor
  · rintro ⟨-, other, taken, same, listed⟩
    exact (sameMembers other taken type among same name).1 listed
  · exact fun listed => ⟨forbid, type, among, rfl, listed⟩

end Extraction

/-! ## Both catalogs -/

/-- A name that several types have is listed with one of them. -/
theorem Catalog.exists_get?_addAll
    {entries : List CatalogType}
    {qualified : String}
    (catalog : Catalog)
    (named : ∃ entry ∈ entries, entry.qualifiedName = qualified) :
    ∃ entry ∈ entries, (catalog.addAll entries).get? qualified = some entry ∧
      entry.qualifiedName = qualified := by
  induction entries using List.reverseRecOn with
  | nil => simp at named
  | append_singleton entries last induction =>
      have step : catalog.addAll (entries ++ [last]) = (catalog.addAll entries).add last := by
        rw [addAll, List.foldl_append]
        rfl
      rw [step, get?_add]
      by_cases here : last.qualifiedName = qualified
      · exact ⟨last, by simp, if_pos here, here⟩
      · rw [if_neg here]
        have earlier : ∃ entry ∈ entries, entry.qualifiedName = qualified := by
          simpa [or_and_right, exists_or, here] using named
        rcases induction earlier with ⟨entry, among, found, same⟩
        exact ⟨entry, List.mem_append_left _ among, found, same⟩

/--
The denylist of extracted types makes a registry of exactly the forbidden
classes that have a member, and the catalog inferred from it lists these classes
with the members that the catalog of the types themselves lists.
-/
theorem inferred_agrees_with_extracted
    {types : List RetainedType}
    {forbidden : NameSet}
    (sameMembers : ∀ first ∈ types, ∀ second ∈ types,
      first.qualifiedName = second.qualifiedName →
      ∀ name, name ∈ first.members ↔ name ∈ second.members)
    (memberNames : ∀ type ∈ types, ∀ name ∈ type.members,
      name = constructorName ∨ name ≠ "" ∧ '.' ∉ name.toList)
    (classNames : ∀ owner ∈ forbidden, owner ≠ "" ∧ owner.toList.head? ≠ some '.' ∧
      owner.toList.getLast? ≠ some '.') :
    ∃ registry, Registry.ofEntries (denylistEntries types forbidden) = .ok registry ∧
      (∀ owner, owner ∈ registry.types ↔
        owner ∈ forbidden ∧
          ∃ type ∈ types, type.qualifiedName = owner ∧ type.members ≠ []) ∧
      ∀ owner ∈ registry.types, ∃ inferred extracted,
        (Catalog.ofRegistry registry).get? owner = some inferred ∧
        (Catalog.ofRetained types).get? owner = some extracted ∧
        inferred.qualifiedName = extracted.qualifiedName ∧
        inferred.staticMethods = extracted.staticMethods ∧
        inferred.constructible = extracted.constructible := by
  have closedNames : ∀ owner ∈ forbidden, owner ≠ "" ∧ owner.toList.getLast? ≠ some '.' :=
    fun owner forbid => ⟨(classNames owner forbid).1, (classNames owner forbid).2.2⟩
  rcases exists_registry memberNames closedNames with ⟨registry, accepted, members⟩
  refine ⟨registry, accepted, ?_, ?_⟩
  · intro owner
    rw [Registry.mem_types]
    constructor
    · rintro ⟨member, listed, rfl⟩
      rcases (members _ _).1 ⟨member, listed, rfl, rfl⟩ with ⟨forbid, type, among, same, kept⟩
      exact ⟨forbid, type, among, same, List.ne_nil_of_mem kept⟩
    · rintro ⟨forbid, type, among, same, nonempty⟩
      rcases List.exists_mem_of_ne_nil _ nonempty with ⟨name, kept⟩
      rcases (members owner name).2 ⟨forbid, type, among, same, kept⟩ with
        ⟨member, listed, owned, -⟩
      exact ⟨member, listed, owned⟩
  · intro owner owns
    rcases Registry.mem_types.1 owns with ⟨member, listed, rfl⟩
    have opened : ∀ member ∈ registry.members, ∀ rest, member.owner.toList ≠ '.' :: rest := by
      intro other among rest begins
      have forbid := ((members _ _).1 ⟨other, among, rfl, rfl⟩).1
      exact (classNames other.owner forbid).2.1 (congrArg List.head? begins)
    rcases (Catalog.regroups_ofRegistry opened).get?_owner member listed with
      ⟨inferred, found, gathers⟩
    rcases (members _ _).1 ⟨member, listed, rfl, rfl⟩ with ⟨forbid, type, among, same, -⟩
    have named : ∃ entry ∈ types.map CatalogType.ofRetained,
        entry.qualifiedName = member.owner :=
      ⟨.ofRetained type, List.mem_map_of_mem among, same⟩
    rcases Catalog.exists_get?_addAll Catalog.empty named with ⟨entry, entered, get, sameName⟩
    rcases List.mem_map.1 entered with ⟨record, recorded, rfl⟩
    have sameOwner : record.qualifiedName = member.owner := sameName
    have gathered : ∀ name,
        (∃ other ∈ registry.members, other.owner = member.owner ∧ other.name = name) ↔
          name ∈ record.members := by
      intro name
      rw [members, ← sameOwner]
      exact extracts_iff sameMembers recorded (sameOwner ▸ forbid)
    refine ⟨inferred, .ofRetained record, found, get, ?_, ?_, ?_⟩
    · exact gathers.qualifiedName_eq.trans sameOwner.symm
    · ext name
      rw [gathers.mem_staticMethods, gathered, CatalogType.ofRetained, NameSet.mem_ofList,
        List.mem_filter, decide_eq_true_iff]
      exact and_comm
    · rw [Bool.eq_iff_iff, gathers.constructible_iff, gathered, CatalogType.ofRetained,
        List.contains_iff_mem]

/-- Two archives that hold one type, one of them beside another type. -/
def doubledTypes : List RetainedType :=
  [⟨"Sample", "Counter", "System.Object", true, [".ctor", "Read", "Read", "ctor"]⟩,
    ⟨"Sample", "Clock", "System.Object", true, ["Now"]⟩,
    ⟨"Sample", "Counter", "System.Object", false, ["ctor", "Read", ".ctor"]⟩]

/-- A method that is called `ctor` stays apart from the constructors all the way, and overloads
and the second archive add nothing. -/
theorem inferred_agrees_with_extracted_doubledTypes :
    ∃ registry inferred,
      Registry.ofEntries (denylistEntries doubledTypes (.singleton "Sample.Counter")) =
        .ok registry ∧
      (Catalog.ofRegistry registry).get? "Sample.Counter" = some inferred ∧
      inferred.staticMethods = NameSet.ofList ["ctor", "Read"] ∧
      inferred.constructible = true := by
  have included : ∀ first ∈ doubledTypes, ∀ second ∈ doubledTypes,
      first.qualifiedName = second.qualifiedName →
      ∀ name ∈ first.members, name ∈ second.members := by
    decide
  have sameMembers : ∀ first ∈ doubledTypes, ∀ second ∈ doubledTypes,
      first.qualifiedName = second.qualifiedName →
      ∀ name, name ∈ first.members ↔ name ∈ second.members :=
    fun first inFirst second inSecond same name =>
      ⟨included first inFirst second inSecond same name,
        included second inSecond first inFirst same.symm name⟩
  have memberNames : ∀ type ∈ doubledTypes, ∀ name ∈ type.members,
      name = constructorName ∨ name ≠ "" ∧ '.' ∉ name.toList := by
    decide
  have classNames : ∀ owner ∈ NameSet.singleton "Sample.Counter", owner ≠ "" ∧
      owner.toList.head? ≠ some '.' ∧ owner.toList.getLast? ≠ some '.' := by
    intro owner forbid
    rw [NameSet.mem_singleton.1 forbid]
    decide
  rcases inferred_agrees_with_extracted sameMembers memberNames classNames with
    ⟨registry, accepted, types, agree⟩
  have owns : "Sample.Counter" ∈ registry.types :=
    (types _).2 ⟨NameSet.mem_singleton.2 rfl, _, List.mem_cons_self, rfl, by decide⟩
  rcases agree _ owns with ⟨inferred, extracted, found, get, -, methods, constructible⟩
  have built : (Catalog.ofRetained doubledTypes).get? "Sample.Counter" =
      some ⟨"Sample", "Counter", false, false, NameSet.ofList ["ctor", "Read"], true⟩ := by
    decide
  rw [built] at get
  cases get
  exact ⟨registry, inferred, accepted, found, methods, constructible⟩

end WinrtLint
