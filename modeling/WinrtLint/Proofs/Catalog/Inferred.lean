import WinrtLint.Catalog.Basic
import WinrtLint.Proofs.Denylist.Keys
import WinrtLint.Proofs.Denylist.Merging

/-!
# The catalog inferred from a registry

A registry that lists the key of a method has the method as a member.  A catalog
that is inferred from a registry lists every type under its own qualified name,
and lists each owner whose two halves make up its name again
(`get?_ofRegistry`).  An owner that begins with a dot is the exception: it is
entered under the name without it.
-/

namespace WinrtLint

/-! ## Qualified names -/

namespace CatalogType

/-- A name that does not begin with a dot is made up again by its two halves. -/
theorem qualify_splitQualified
    {qualified : String}
    (opened : ∀ rest, qualified.toList ≠ '.' :: rest) :
    qualify (splitQualified qualified).1 (splitQualified qualified).2 = qualified := by
  rw [splitQualified]
  cases cut : Text.cutLast? '.' qualified.toList with
  | none => exact if_pos rfl
  | some halves =>
      rcases halves with ⟨space, name⟩
      have joined := (Text.cutLast?_eq_some.1 cut).1
      have spaced : String.ofList space ≠ "" := by
        intro empty
        rw [String.ofList_eq_empty_iff.1 empty] at joined
        exact opened name joined
      rw [qualify, if_neg spaced, ← String.toList_inj, joined]
      simp

@[simp]
theorem qualifiedName_withMember (entry : CatalogType) (member : Member) :
    (entry.withMember member).qualifiedName = entry.qualifiedName := by
  rw [withMember]
  split <;> rfl

end CatalogType

namespace Catalog

theorem get?_add (catalog : Catalog) (type : CatalogType) (qualified : String) :
    (catalog.add type).get? qualified =
      if type.qualifiedName = qualified then some type else catalog.get? qualified := by
  have key : (⟨type, none⟩ : CatalogEntry).key = .text (.whole type.qualifiedName) := rfl
  rw [get?, entry?, add, addEntry, Dictionary.get?_insert, key]
  by_cases same : type.qualifiedName = qualified
  · simp [same]
  · simp [same, get?, entry?]

/-- Every type is listed under its own qualified name. -/
def Faithful (catalog : Catalog) : Prop :=
  ∀ qualified type, catalog.get? qualified = some type → type.qualifiedName = qualified

theorem faithful_empty : empty.Faithful := by
  intro qualified type found
  cases found

theorem Faithful.add
    {catalog : Catalog}
    (faithful : catalog.Faithful)
    (type : CatalogType) :
    (catalog.add type).Faithful := by
  intro qualified other found
  rw [get?_add] at found
  split at found
  · cases found
    assumption
  · exact faithful qualified other found

/-- What recording a member does: its owner, known or new, is listed with one more member. -/
theorem addMember_eq (catalog : Catalog) (member : Member) :
    ∃ type : CatalogType,
      (catalog.get? member.owner = some type ∨
        type.qualifiedName =
          qualify (CatalogType.splitQualified member.owner).1
            (CatalogType.splitQualified member.owner).2) ∧
      catalog.addMember member = catalog.add (type.withMember member) := by
  rw [addMember]
  cases catalog.get? member.owner with
  | some type => exact ⟨type, Or.inl rfl, rfl⟩
  | none => exact ⟨_, Or.inr rfl, rfl⟩

theorem Faithful.addMember
    {catalog : Catalog}
    (faithful : catalog.Faithful)
    (member : Member) :
    (catalog.addMember member).Faithful := by
  rcases catalog.addMember_eq member with ⟨type, -, added⟩
  rw [added]
  exact faithful.add (type.withMember member)

/-- A name stays listed when a member is recorded. -/
theorem isSome_get?_addMember
    {catalog : Catalog}
    {qualified : String}
    (listed : (catalog.get? qualified).isSome = true)
    (member : Member) :
    ((catalog.addMember member).get? qualified).isSome = true := by
  rcases catalog.addMember_eq member with ⟨type, -, added⟩
  rw [added, get?_add]
  split
  · rfl
  · exact listed

theorem isSome_get?_owner
    {catalog : Catalog}
    (faithful : catalog.Faithful)
    {member : Member}
    (opened : ∀ rest, member.owner.toList ≠ '.' :: rest) :
    ((catalog.addMember member).get? member.owner).isSome = true := by
  rcases catalog.addMember_eq member with ⟨type, entered, added⟩
  have named : type.qualifiedName = member.owner := by
    rcases entered with known | new
    · exact faithful member.owner type known
    · exact new.trans (CatalogType.qualify_splitQualified opened)
  rw [added, get?_add, CatalogType.qualifiedName_withMember, if_pos named]
  rfl

/-- Once its members are recorded, a type that owns one of them is listed. -/
theorem isSome_get?_foldl
    {members : List Member}
    {catalog : Catalog}
    {owner : String}
    (faithful : catalog.Faithful)
    (opened : ∀ rest, owner.toList ≠ '.' :: rest)
    (owns : (catalog.get? owner).isSome = true ∨ ∃ member ∈ members, member.owner = owner) :
    ((members.foldl addMember catalog).get? owner).isSome = true := by
  induction members generalizing catalog with
  | nil => simpa using owns
  | cons first rest induction =>
      rw [List.foldl_cons]
      apply induction (faithful.addMember first)
      rcases owns with listed | ⟨member, among, rfl⟩
      · exact Or.inl (isSome_get?_addMember listed first)
      · rcases List.mem_cons.1 among with rfl | later
        · exact Or.inl (isSome_get?_owner faithful opened)
        · exact Or.inr ⟨member, later, rfl⟩

theorem faithful_foldl
    {members : List Member}
    {catalog : Catalog}
    (faithful : catalog.Faithful) :
    (members.foldl addMember catalog).Faithful := by
  induction members generalizing catalog with
  | nil => exact faithful
  | cons first rest induction => exact induction (faithful.addMember first)

/-- The inferred catalog lists the type of every key `owner.name` of the registry, under the
name by which it shows itself. -/
theorem get?_ofRegistry
    {registry : Registry}
    {owner name : String}
    (owned : owner ≠ "")
    (opened : ∀ rest, owner.toList ≠ '.' :: rest)
    (closed : ∀ front, owner.toList ≠ front ++ ['.'])
    (named : name ≠ "")
    (dotFree : '.' ∉ name.toList)
    (listed : registry.contains (memberKey owner name) = true) :
    ∃ type, (ofRegistry registry).get? owner = some type ∧ type.qualifiedName = owner := by
  rcases Registry.exists_member listed with ⟨member, among, read⟩
  rw [Member.parse_memberKey owned closed named dotFree] at read
  cases read
  have found := isSome_get?_foldl faithful_empty opened (Or.inr ⟨_, among, rfl⟩)
  rcases Option.isSome_iff_exists.1 found with ⟨type, get⟩
  exact ⟨type, get, faithful_foldl faithful_empty owner type get⟩

end Catalog

end WinrtLint
