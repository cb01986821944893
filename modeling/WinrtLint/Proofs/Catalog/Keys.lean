import WinrtLint.Proofs.Catalog.Plain
import WinrtLint.Proofs.Catalog.Regrouping

/-!
# The keys of an inferred catalog

Inferring a catalog from a registry only groups the keys by type.  The types of
the catalog are the owners of the registry, each once (`names_ofRegistry`), and
a type stands for the keys of its static methods and, where it can be
constructed, for that of its constructors (`CatalogType.Offers`).  These are the
keys of the registry again (`registry_regrouped`), as long as none of them
begins with a dot: the dot would be lost from the name of the owner.
-/

namespace WinrtLint

/-- A type stands for the keys of its static methods and of its constructors. -/
inductive CatalogType.Offers (type : CatalogType) : String → Prop
  | staticMethod {name : String} (listed : name ∈ type.staticMethods) :
      Offers type (memberKey type.qualifiedName name)
  | constructor (constructible : type.constructible = true) :
      Offers type (memberKey type.qualifiedName constructorName)

/-! ## Members and their keys -/

theorem Member.ReadFrom.owned
    {key : String}
    {member : Member}
    (read : ReadFrom key member) :
    member.owner ≠ "" := by
  cases read with
  | constructor owned => exact owned
  | staticMethod owned => exact owned

/-- The owner of a member begins as the key does from which the member is read. -/
theorem Member.ReadFrom.head?_owner
    {key : String}
    {member : Member}
    (read : ReadFrom key member) :
    member.owner.toList.head? = key.toList.head? := by
  rw [← read.key_eq, Member.key, toList_memberKey]
  cases letters : member.owner.toList with
  | nil => exact absurd (String.toList_eq_nil_iff.1 letters) read.owned
  | cons first rest => rfl

namespace Registry

variable {registry : Registry}

/-- The members of a registry have its keys. -/
theorem contains_key {member : Member} (among : member ∈ registry.members) :
    registry.contains member.key = true := by
  rcases mem_members.1 among with ⟨key, listed, read⟩
  rw [(Member.parse_eq_ok.1 read).key_eq]
  exact NameSet.contains_iff.2 listed

theorem exists_key {key : String} (listed : registry.contains key = true) :
    ∃ member ∈ registry.members, member.key = key := by
  rcases exists_member listed with ⟨member, among, read⟩
  exact ⟨member, among, (Member.parse_eq_ok.1 read).key_eq⟩

theorem owned_of_mem {member : Member} (among : member ∈ registry.members) :
    member.owner ≠ "" := by
  rcases mem_members.1 among with ⟨key, -, read⟩
  exact (Member.parse_eq_ok.1 read).owned

/-- An owner has constructors among the members exactly where their key is listed. -/
theorem exists_constructor_iff {owner : String} (owned : owner ≠ "") :
    (∃ member ∈ registry.members, member.owner = owner ∧ member.name = constructorName) ↔
      registry.contains (memberKey owner constructorName) = true := by
  constructor
  · rintro ⟨member, among, rfl, named⟩
    rw [← named]
    exact contains_key among
  · intro listed
    exact ⟨_, mem_members.2 ⟨_, NameSet.contains_iff.1 listed, Member.parse_constructorKey owned⟩,
      rfl, rfl⟩

/-- No owner begins with a dot where no key does. -/
theorem opened_of_keys
    (opened : ∀ key ∈ registry.keys, key.toList.head? ≠ some '.')
    {member : Member}
    (among : member ∈ registry.members)
    (rest : List Char) :
    member.owner.toList ≠ '.' :: rest := by
  rcases mem_members.1 among with ⟨key, listed, read⟩
  intro begins
  have first := (Member.parse_eq_ok.1 read).head?_owner
  rw [begins] at first
  exact opened key listed first.symm

end Registry

/-! ## The types of the catalog -/

namespace Catalog

variable {registry : Registry}

/-- A type of an inferred catalog has gathered the members of its name, and there are some. -/
theorem exists_gathers
    (opened : ∀ member ∈ registry.members, ∀ rest, member.owner.toList ≠ '.' :: rest)
    {type : CatalogType}
    (listed : type ∈ (ofRegistry registry).toList) :
    type.Gathers type.qualifiedName registry.members ∧
      ∃ member ∈ registry.members, member.owner = type.qualifiedName := by
  have regroups := regroups_ofRegistry opened
  have found := (plain_ofRegistry registry).get?_eq_some.2 ⟨listed, rfl⟩
  by_cases owns : ∃ member ∈ registry.members, member.owner = type.qualifiedName
  · rcases owns with ⟨member, among, owned⟩
    rcases regroups.get?_owner member among with ⟨other, get, gathers⟩
    rw [owned, found] at get
    cases get
    exact ⟨owned ▸ gathers, member, among, owned⟩
  · have unowned : ∀ member ∈ registry.members, member.owner ≠ type.qualifiedName :=
      fun member among same => owns ⟨member, among, same⟩
    rw [regroups.get?_eq_none _ unowned] at found
    cases found

/-- The names of the types are the owners of the registry, each once. -/
theorem names_ofRegistry
    (opened : ∀ member ∈ registry.members, ∀ rest, member.owner.toList ≠ '.' :: rest) :
    ((ofRegistry registry).toList.map CatalogType.qualifiedName).Perm registry.types.toList := by
  have plain := plain_ofRegistry registry
  refine (List.perm_ext_iff_of_nodup plain.nodup_names registry.types.nodup_toList).2 ?_
  intro owner
  rw [← NameSet.mem_def, Registry.mem_types, List.mem_map]
  constructor
  · rintro ⟨type, listed, rfl⟩
    exact (exists_gathers opened listed).2
  · rintro ⟨member, among, rfl⟩
    rcases (regroups_ofRegistry opened).get?_owner member among with ⟨type, get, -⟩
    exact ⟨type, plain.get?_eq_some.1 get⟩

/-- The keys for which the types stand are those of the registry. -/
theorem contains_iff_offers
    (opened : ∀ member ∈ registry.members, ∀ rest, member.owner.toList ≠ '.' :: rest)
    (key : String) :
    registry.contains key = true ↔ ∃ type ∈ (ofRegistry registry).toList, type.Offers key := by
  constructor
  · intro contained
    rcases Registry.exists_key contained with ⟨member, among, rfl⟩
    rcases (regroups_ofRegistry opened).get?_owner member among with ⟨type, get, gathers⟩
    refine ⟨type, ((plain_ofRegistry registry).get?_eq_some.1 get).1, ?_⟩
    rw [Member.key, ← gathers.qualifiedName_eq]
    by_cases constructs : member.name = constructorName
    · rw [constructs]
      exact .constructor (gathers.constructible_iff.2 ⟨member, among, rfl, constructs⟩)
    · exact .staticMethod
        ((gathers.mem_staticMethods _).2 ⟨constructs, member, among, rfl, rfl⟩)
  · rintro ⟨type, listed, offered⟩
    have gathers := (exists_gathers opened listed).1
    cases offered with
    | staticMethod method =>
        rcases (gathers.mem_staticMethods _).1 method with ⟨-, member, among, owned, rfl⟩
        rw [← owned]
        exact Registry.contains_key among
    | constructor constructible =>
        rcases gathers.constructible_iff.1 constructible with ⟨member, among, owned, named⟩
        rw [← owned, ← named]
        exact Registry.contains_key among

/--
A catalog that is inferred from a registry, none of whose keys begins with a
dot, groups the keys and loses none.  It has one type for each owner, listed
under the name by which it shows itself, a sealed class.  The static methods of
the type are the members of this owner but for the constructors, and it can be
constructed where the key of the constructors is listed.  The keys for which
the types stand are those of the registry.
-/
theorem registry_regrouped
    (opened : ∀ key ∈ registry.keys, key.toList.head? ≠ some '.') :
    ((ofRegistry registry).toList.map CatalogType.qualifiedName).Perm registry.types.toList ∧
    (∀ type ∈ (ofRegistry registry).toList,
      (ofRegistry registry).get? type.qualifiedName = some type ∧
      type.isSealed = true ∧ type.isValueType = false ∧
      (∀ name, name ∈ type.staticMethods ↔
        name ≠ constructorName ∧
          ∃ member ∈ registry.members, member.owner = type.qualifiedName ∧ member.name = name) ∧
      (type.constructible = true ↔
        registry.contains (type.qualifiedName ++ "..ctor") = true)) ∧
    ∀ key, registry.contains key = true ↔
      ∃ type ∈ (ofRegistry registry).toList, type.Offers key := by
  have openedOwners : ∀ member ∈ registry.members, ∀ rest, member.owner.toList ≠ '.' :: rest :=
    fun member among => Registry.opened_of_keys opened among
  refine ⟨names_ofRegistry openedOwners, ?_, contains_iff_offers openedOwners⟩
  intro type listed
  rcases exists_gathers openedOwners listed with ⟨gathers, member, among, owned⟩
  have nonempty : type.qualifiedName ≠ "" := owned ▸ Registry.owned_of_mem among
  refine ⟨(plain_ofRegistry registry).get?_eq_some.2 ⟨listed, rfl⟩, gathers.isSealed,
    gathers.not_isValueType, gathers.mem_staticMethods, ?_⟩
  rw [gathers.constructible_iff, Registry.exists_constructor_iff nonempty,
    Member.constructorKey_eq]

/-- Between two keys of one type stands the key of another type, whose name goes on where that of
the first one ends. -/
def clockRegistry : Registry where
  keys := NameSet.ofList ["Sample.Clock.Now", "Sample.Clock.Hand.Move", "Sample.Clock..ctor"]
  members :=
    [⟨"Sample.Clock", ".ctor", .constructor⟩, ⟨"Sample.Clock.Hand", "Move", .staticMethod⟩,
      ⟨"Sample.Clock", "Now", .staticMethod⟩]
  parsed := rfl
  types := NameSet.ofList ["Sample.Clock", "Sample.Clock.Hand", "Sample.Clock"]
  types_eq := rfl

/-- The keys of the outer type are put together again, and the inner type stays apart. -/
theorem registry_regrouped_clockRegistry :
    (∀ key ∈ clockRegistry.keys, key.toList.head? ≠ some '.') ∧
    (ofRegistry clockRegistry).toList.length = 2 ∧
    ∃ type, (ofRegistry clockRegistry).get? "Sample.Clock" = some type ∧
      type.staticMethods = .singleton "Now" ∧ type.constructible = true ∧
      type.Offers "Sample.Clock..ctor" := by
  have opened : ∀ key ∈ clockRegistry.keys, key.toList.head? ≠ some '.' := by
    simp only [NameSet.mem_def]
    decide
  rcases registry_regrouped opened with ⟨names, types, -⟩
  refine ⟨opened, List.length_map _ ▸ names.length_eq, ?_⟩
  rcases List.mem_map.1 (names.mem_iff.2 (show "Sample.Clock" ∈ _ by decide)) with
    ⟨type, listed, named⟩
  rcases types type listed with ⟨get, -, -, methods, constructs⟩
  rw [named] at get methods constructs
  have constructible : type.constructible = true := constructs.2 (by decide)
  refine ⟨type, get, ?_, constructible, ?_⟩
  · ext name
    rw [methods, NameSet.mem_singleton]
    constructor
    · rintro ⟨method, member, among, owned, rfl⟩
      have each : ∀ member ∈ clockRegistry.members, member.owner = "Sample.Clock" →
          member.name ≠ constructorName → member.name = "Now" := by
        decide
      exact each member among owned method
    · rintro rfl
      exact ⟨by decide, ⟨"Sample.Clock", "Now", .staticMethod⟩, by decide, rfl, rfl⟩
  · have offered : type.Offers (memberKey type.qualifiedName constructorName) :=
      .constructor constructible
    rwa [named] at offered

end Catalog

end WinrtLint
