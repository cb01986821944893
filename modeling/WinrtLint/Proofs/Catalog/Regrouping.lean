import Mathlib.Data.List.Induction
import WinrtLint.Proofs.Catalog.Inferred
import WinrtLint.Proofs.Denylist.Merging

/-!
# Members grouped by type

A catalog is inferred by recording the members of a registry one by one, in an
order in which those of one type need not stand together.  What a catalog lists
after some members is told by the members alone (`Catalog.Regroups`): exactly
their owners, each as the type that has just these members.  Recording one more
member keeps this (`Regroups.addMember`), provided that its owner does not begin
with a dot, so it holds of every catalog inferred from a registry of such
members (`regroups_ofRegistry`).
-/

namespace WinrtLint

/-- A type is what a catalog makes of the members of one owner among some members. -/
structure CatalogType.Gathers
    (type : CatalogType)
    (owner : String)
    (members : List Member) : Prop where
  qualifiedName_eq : type.qualifiedName = owner
  isSealed : type.isSealed = true
  not_isValueType : type.isValueType = false
  mem_staticMethods : ∀ name, name ∈ type.staticMethods ↔
    name ≠ constructorName ∧ ∃ member ∈ members, member.owner = owner ∧ member.name = name
  constructible_iff : type.constructible = true ↔
    ∃ member ∈ members, member.owner = owner ∧ member.name = constructorName

namespace CatalogType.Gathers

variable {type : CatalogType} {owner : String} {members : List Member}

/-- A new type has gathered nothing as long as there is nothing to gather. -/
theorem of_new
    (opened : ∀ rest, owner.toList ≠ '.' :: rest)
    (unowned : ∀ member ∈ members, member.owner ≠ owner) :
    Gathers ⟨(splitQualified owner).1, (splitQualified owner).2, true, false, ∅, false⟩ owner
      members where
  qualifiedName_eq := qualify_splitQualified opened
  isSealed := rfl
  not_isValueType := rfl
  mem_staticMethods name := by
    constructor
    · exact fun listed => absurd listed (NameSet.not_mem_empty name)
    · rintro ⟨-, member, among, owned, -⟩
      exact absurd owned (unowned member among)
  constructible_iff := by
    constructor
    · exact fun constructible => absurd constructible Bool.false_ne_true
    · rintro ⟨member, among, owned, -⟩
      exact absurd owned (unowned member among)

theorem exists_concat {member : Member} {name : String} :
    (∃ other ∈ members ++ [member], other.owner = member.owner ∧ other.name = name) ↔
      (∃ other ∈ members, other.owner = member.owner ∧ other.name = name) ∨
        member.name = name := by
  simp [or_and_right, exists_or]

/-- One more member of the owner is gathered where the type records it. -/
theorem withMember
    {member : Member}
    (gathers : type.Gathers member.owner members) :
    (type.withMember member).Gathers member.owner (members ++ [member]) where
  qualifiedName_eq := by
    rw [qualifiedName_withMember]
    exact gathers.qualifiedName_eq
  isSealed := by
    rw [CatalogType.withMember]
    split <;> exact gathers.isSealed
  not_isValueType := by
    rw [CatalogType.withMember]
    split <;> exact gathers.not_isValueType
  mem_staticMethods name := by
    rw [CatalogType.withMember, exists_concat]
    split
    · rename_i constructor
      rw [gathers.mem_staticMethods, constructor]
      refine and_congr_right fun method => (or_iff_left ?_).symm
      exact method.symm
    · rename_i method
      rw [NameSet.mem_insert, gathers.mem_staticMethods]
      constructor
      · rintro (rfl | ⟨named, earlier⟩)
        · exact ⟨method, Or.inr rfl⟩
        · exact ⟨named, Or.inl earlier⟩
      · rintro ⟨named, earlier | rfl⟩
        · exact Or.inr ⟨named, earlier⟩
        · exact Or.inl rfl
  constructible_iff := by
    rw [CatalogType.withMember, exists_concat]
    split
    · rename_i constructor
      exact iff_of_true rfl (Or.inr constructor)
    · rename_i method
      rw [gathers.constructible_iff]
      exact (or_iff_left method).symm

/-- A member of another owner changes nothing. -/
theorem concat_of_ne
    {member : Member}
    (gathers : type.Gathers owner members)
    (other : member.owner ≠ owner) :
    type.Gathers owner (members ++ [member]) where
  qualifiedName_eq := gathers.qualifiedName_eq
  isSealed := gathers.isSealed
  not_isValueType := gathers.not_isValueType
  mem_staticMethods name := by
    rw [gathers.mem_staticMethods]
    simp [or_and_right, exists_or, other]
  constructible_iff := by
    rw [gathers.constructible_iff]
    simp [or_and_right, exists_or, other]

end CatalogType.Gathers

namespace Catalog

/-- A catalog lists exactly the owners of some members, each with all that is gathered for it. -/
structure Regroups (catalog : Catalog) (members : List Member) : Prop where
  get?_eq_none : ∀ owner, (∀ member ∈ members, member.owner ≠ owner) →
    catalog.get? owner = none
  get?_owner : ∀ member ∈ members, ∃ type,
    catalog.get? member.owner = some type ∧ type.Gathers member.owner members

namespace Regroups

variable {catalog : Catalog} {members : List Member}

theorem empty : Catalog.empty.Regroups [] where
  get?_eq_none _ _ := rfl
  get?_owner _ among := absurd among List.not_mem_nil

/-- The type that is found, or entered anew, for the owner of a member. -/
theorem exists_entry
    (regroups : catalog.Regroups members)
    {member : Member}
    (opened : ∀ rest, member.owner.toList ≠ '.' :: rest) :
    ∃ type : CatalogType, type.Gathers member.owner members ∧
      catalog.addMember member = catalog.add (type.withMember member) := by
  rw [Catalog.addMember]
  cases found : catalog.get? member.owner with
  | some type =>
      by_cases owned : ∃ other ∈ members, other.owner = member.owner
      · rcases owned with ⟨other, among, same⟩
        rcases regroups.get?_owner other among with ⟨listed, get, gathers⟩
        rw [same, found] at get
        cases get
        exact ⟨type, same ▸ gathers, rfl⟩
      -- A type that is found has an owner among the members, so this case cannot be.
      · have unowned : ∀ other ∈ members, other.owner ≠ member.owner :=
          fun other among same => owned ⟨other, among, same⟩
        rw [regroups.get?_eq_none _ unowned] at found
        cases found
  | none =>
      have unowned : ∀ other ∈ members, other.owner ≠ member.owner := by
        intro other among same
        rcases regroups.get?_owner other among with ⟨listed, get, -⟩
        rw [same, found] at get
        cases get
      exact ⟨_, .of_new opened unowned, rfl⟩

/-- Recording one more member lists its owner with it, and leaves the other types as they are. -/
theorem addMember
    (regroups : catalog.Regroups members)
    {member : Member}
    (opened : ∀ rest, member.owner.toList ≠ '.' :: rest) :
    (catalog.addMember member).Regroups (members ++ [member]) := by
  rcases regroups.exists_entry opened with ⟨type, gathers, added⟩
  have named : (type.withMember member).qualifiedName = member.owner :=
    gathers.withMember.qualifiedName_eq
  rw [added]
  constructor
  · intro owner unowned
    rw [List.forall_mem_append, List.forall_mem_singleton] at unowned
    rw [get?_add, named, if_neg unowned.2]
    exact regroups.get?_eq_none owner unowned.1
  · intro other among
    rw [get?_add, named]
    by_cases same : member.owner = other.owner
    · rw [if_pos same]
      exact ⟨_, rfl, same ▸ gathers.withMember⟩
    · rw [if_neg same]
      rcases List.mem_append.1 among with earlier | last
      · rcases regroups.get?_owner other earlier with ⟨listed, get, gathered⟩
        exact ⟨listed, get, gathered.concat_of_ne same⟩
      · exact absurd (List.mem_singleton.1 last ▸ rfl) same

theorem foldl
    {members : List Member}
    (opened : ∀ member ∈ members, ∀ rest, member.owner.toList ≠ '.' :: rest) :
    (members.foldl Catalog.addMember Catalog.empty).Regroups members := by
  induction members using List.reverseRecOn with
  | nil => exact .empty
  | append_singleton members member induction =>
      rw [List.forall_mem_append, List.forall_mem_singleton] at opened
      rw [List.foldl_append]
      exact (induction opened.1).addMember opened.2

end Regroups

/-- A catalog inferred from a registry groups its members by type. -/
theorem regroups_ofRegistry
    {registry : Registry}
    (opened : ∀ member ∈ registry.members, ∀ rest, member.owner.toList ≠ '.' :: rest) :
    (ofRegistry registry).Regroups registry.members :=
  .foldl opened

end Catalog

end WinrtLint
