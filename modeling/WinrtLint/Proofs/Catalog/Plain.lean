import Mathlib.Data.List.Nodup
import WinrtLint.Proofs.Catalog.Inferred

/-!
# Plain catalogs

A catalog is plain where its entries are types and not the odd values of a
document, and where no qualified name is listed twice.  Every catalog that is
made of types is plain (`plain_ofList`, `Plain.addMember`).  What a plain catalog
tells is which types it lists (`Plain.get?_eq_some`), and two of them that tell
the same list the same types in one order by name (`Plain.inOrder_congr`).
-/

namespace WinrtLint.Catalog

/-- A catalog of types, none of them under the name of another one. -/
structure Plain (catalog : Catalog) : Prop where
  /-- Every entry is a type as it is. -/
  typed : ∀ entry ∈ catalog.entries, entry.written = none
  distinct : (catalog.types.entries.map Prod.fst).Nodup

theorem plain_empty : empty.Plain where
  typed := by simp [entries, empty, Dictionary.empty, Dictionary.values]
  distinct := List.nodup_nil

theorem Plain.add
    {catalog : Catalog}
    (plain : catalog.Plain)
    (type : CatalogType) :
    (catalog.add type).Plain where
  typed := by
    intro entry member
    rcases List.mem_map.1 member with ⟨listed, among, rfl⟩
    rcases Dictionary.mem_putEntry among with rfl | old
    · rfl
    · exact plain.typed listed.2 (List.mem_map_of_mem old)
  distinct := Dictionary.nodup_insert plain.distinct _ _

theorem Plain.addAll
    {catalog : Catalog}
    (plain : catalog.Plain)
    (types : List CatalogType) :
    (catalog.addAll types).Plain := by
  induction types generalizing catalog with
  | nil => exact plain
  | cons type types induction => exact induction (plain.add type)

theorem plain_ofList (types : List CatalogType) : (ofList types).Plain :=
  plain_empty.addAll types

theorem Plain.addMember
    {catalog : Catalog}
    (plain : catalog.Plain)
    (member : Member) :
    (catalog.addMember member).Plain := by
  rcases catalog.addMember_eq member with ⟨type, -, added⟩
  rw [added]
  exact plain.add _

theorem Plain.addMembers
    {catalog : Catalog}
    (plain : catalog.Plain)
    (members : List Member) :
    (members.foldl Catalog.addMember catalog).Plain := by
  induction members generalizing catalog with
  | nil => exact plain
  | cons member members induction => exact induction (plain.addMember member)

theorem plain_ofRegistry (registry : Registry) : (ofRegistry registry).Plain :=
  plain_empty.addMembers registry.members

/-! ## The types of a plain catalog -/

section Types

variable {catalog other : Catalog}

theorem Plain.entries_eq (plain : catalog.Plain) :
    catalog.entries = catalog.toList.map fun type => ⟨type, none⟩ := by
  rw [toList, List.map_map]
  refine (List.map_id' _).symm.trans (List.map_congr_left ?_)
  rintro ⟨type, written⟩ member
  rw [← plain.typed _ member]
  rfl

/-- How a catalog lists a type: under its qualified name. -/
def listing (type : CatalogType) : Json.Key × CatalogEntry :=
  (.text (.whole type.qualifiedName), ⟨type, none⟩)

theorem nodup_listing {types : List CatalogType} :
    ((types.map listing).map Prod.fst).Nodup ↔ (types.map CatalogType.qualifiedName).Nodup := by
  have keys : (types.map listing).map Prod.fst =
      (types.map CatalogType.qualifiedName).map fun name => .text (.whole name) := by
    rw [List.map_map, List.map_map]
    rfl
  rw [keys]
  refine List.nodup_map_iff fun left right same => ?_
  exact Json.LooseText.whole.inj (Json.Key.text.inj same)

theorem Plain.types_eq (plain : catalog.Plain) :
    catalog.types.entries = catalog.toList.map listing := by
  rw [toList, entries, Dictionary.values, List.map_map, List.map_map]
  refine (List.map_id' _).symm.trans (List.map_congr_left ?_)
  rintro ⟨key, type, written⟩ member
  have plainEntry : written = none := plain.typed _ (List.mem_map_of_mem member)
  have named : key = (⟨type, written⟩ : CatalogEntry).key := catalog.keyed _ member
  subst plainEntry
  rw [named]
  rfl

theorem Plain.nodup_names (plain : catalog.Plain) :
    (catalog.toList.map CatalogType.qualifiedName).Nodup :=
  nodup_listing.1 (plain.types_eq ▸ plain.distinct)

/-- What is listed under a qualified name is the type that has it. -/
theorem Plain.get?_eq_some
    (plain : catalog.Plain)
    {qualified : String}
    {type : CatalogType} :
    catalog.get? qualified = some type ↔
      type ∈ catalog.toList ∧ type.qualifiedName = qualified := by
  simp only [get?, entry?, Option.map_eq_some_iff, Dictionary.get?_eq_some plain.distinct,
    plain.types_eq, List.mem_map, listing, Prod.mk.injEq, Json.Key.text.injEq,
    Json.LooseText.whole.injEq]
  constructor
  · rintro ⟨_, ⟨listed, member, named, rfl⟩, rfl⟩
    exact ⟨member, named⟩
  · rintro ⟨member, named⟩
    exact ⟨_, ⟨type, member, named, rfl⟩, rfl⟩

theorem types_addAll (catalog : Catalog) (types : List CatalogType) :
    (catalog.addAll types).types =
      (types.map listing).foldl (fun sofar entry => sofar.insert entry.1 entry.2)
        catalog.types := by
  induction types generalizing catalog with
  | nil => rfl
  | cons type types induction => exact induction (catalog.add type)

/-- Types of distinct names are listed as they are. -/
theorem toList_ofList
    {types : List CatalogType}
    (distinct : (types.map CatalogType.qualifiedName).Nodup) :
    (ofList types).toList = types := by
  have listed : (ofList types).types.entries = types.map listing := by
    rw [ofList, types_addAll]
    exact Dictionary.entries_ofList (nodup_listing.2 distinct)
  rw [toList, entries, Dictionary.values, listed, List.map_map, List.map_map]
  exact List.map_id' _

/-! ## The types in order -/

/-- The types of a catalog, sorted by qualified name. -/
def inOrder (catalog : Catalog) : List CatalogType :=
  catalog.toList.mergeSort fun left right => left.qualifiedName ≤ right.qualifiedName

theorem inOrder_perm (catalog : Catalog) :
    catalog.inOrder.Perm catalog.toList :=
  List.mergeSort_perm _ _

theorem Plain.nodup_inOrder (plain : catalog.Plain) :
    (catalog.inOrder.map CatalogType.qualifiedName).Nodup :=
  (catalog.inOrder_perm.map _).nodup_iff.2 plain.nodup_names

/-- In order, the names of a plain catalog increase. -/
theorem Plain.pairwise_inOrder (plain : catalog.Plain) :
    catalog.inOrder.Pairwise fun left right => left.qualifiedName < right.qualifiedName := by
  have sorted : catalog.inOrder.Pairwise fun left right =>
      decide (left.qualifiedName ≤ right.qualifiedName) = true := by
    refine List.pairwise_mergeSort ?_ ?_ _
    · intro first second third before after
      rw [decide_eq_true_eq] at before after ⊢
      exact String.le_trans before after
    · intro first second
      rw [Bool.or_eq_true, decide_eq_true_eq, decide_eq_true_eq]
      exact String.le_total _ _
  have apart := List.pairwise_map.1 plain.nodup_inOrder
  refine sorted.imp₂ ?_ apart
  intro left right notAfter differ
  rw [decide_eq_true_eq] at notAfter
  exact String.not_le.1 fun back => differ (String.le_antisymm notAfter back)

/-- Plain catalogs that tell the same list the same types in order. -/
theorem Plain.inOrder_congr
    (plain : catalog.Plain)
    (plainOther : other.Plain)
    (same : ∀ qualified, other.get? qualified = catalog.get? qualified) :
    other.inOrder = catalog.inOrder := by
  have members : ∀ type, type ∈ other.inOrder ↔ type ∈ catalog.inOrder := by
    intro type
    rw [other.inOrder_perm.mem_iff, catalog.inOrder_perm.mem_iff]
    have told := same type.qualifiedName
    constructor
    · intro listed
      rw [plainOther.get?_eq_some.2 ⟨listed, rfl⟩] at told
      exact (plain.get?_eq_some.1 told.symm).1
    · intro listed
      rw [plain.get?_eq_some.2 ⟨listed, rfl⟩] at told
      exact (plainOther.get?_eq_some.1 told).1
  have rearranged : other.inOrder.Perm catalog.inOrder :=
    (List.perm_ext_iff_of_nodup (List.Nodup.of_map _ plainOther.nodup_inOrder)
      (List.Nodup.of_map _ plain.nodup_inOrder)).2 members
  -- Increasing lists of the same types cannot differ in their order.
  exact rearranged.eq_of_pairwise
    (fun _ _ _ _ less greater => absurd greater (String.lt_asymm less))
    plainOther.pairwise_inOrder plain.pairwise_inOrder

end Types

end WinrtLint.Catalog
