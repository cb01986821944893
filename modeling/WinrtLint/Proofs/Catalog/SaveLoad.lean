import WinrtLint.Proofs.Catalog.Loading
import WinrtLint.Proofs.Catalog.Plain
import WinrtLint.Proofs.Files.Writing

/-!
# Saving and loading catalogs

Whatever plain catalog is saved, loading gives it back (`load_save`).  A type is
written field by field and read field by field (`ofJson_toJson`), so no default
of the reader ever stands in for a field.  What is saved is the list of types in
order (`Plain.document_eq`), and that list is what is loaded
(`ofDocument_write`), so saving again writes the same text.
-/

namespace WinrtLint

open WinrtLint.Outcome

/-! ## One type -/

/-- A field is found by its name where names are distinct. -/
theorem Json.Value.field?_of_mem
    {fields : List (Json.LooseText × Json.Value)}
    {name : String}
    {value : Json.Value}
    (distinct : (fields.map Prod.fst).Nodup)
    (listed : (.whole name, value) ∈ fields) :
    field? fields name = some value := by
  rcases List.append_of_mem listed with ⟨before, after, rfl⟩
  refine List.lookup_eq_some_iff.2 ⟨before, after, rfl, ?_⟩
  intro field earlier
  rw [List.map_append, List.nodup_append] at distinct
  rw [bne_iff_ne]
  exact (distinct.2.2 _ (List.mem_map_of_mem earlier) _ List.mem_cons_self).symm

theorem nodup_fieldsOf
    (space name isSealed isValueType : Json.Value)
    (methods : List Json.Value)
    (constructible : Json.Value) :
    ((fieldsOf space name isSealed isValueType methods constructible).map Prod.fst).Nodup := by
  simp only [fieldsOf, List.map_cons, List.map_nil]
  decide

theorem CatalogType.textual_toJson (type : CatalogType) (depth : Nat) :
    Json.Textual (depth + 2) type.toJson := by
  refine .object ?_ (nodup_fieldsOf ..) ?_
  · simp [fieldsOf]
  · simp only [fieldsOf, List.forall_mem_cons]
    refine ⟨.text _, .text _, .bool _, .bool _, .array ?_, .bool _, by simp⟩
    intro item member
    rcases List.mem_map.1 member with ⟨name, -, rfl⟩
    exact .text name

namespace WrittenType

theorem eraseDupsBy_texts {names : List String} (distinct : names.Nodup) :
    (names.map Json.Value.text).eraseDupsBy (fun left right => left.key? = right.key?) =
      names.map .text := by
  induction names with
  | nil => rfl
  | cons name names induction =>
      rw [List.nodup_cons] at distinct
      have kept : (names.map Json.Value.text).filter
          (fun value => decide (value.key? = (Json.Value.text name).key?) = false) =
            names.map .text := by
        refine List.filter_eq_self.2 fun value member => ?_
        rcases List.mem_map.1 member with ⟨other, among, rfl⟩
        have differ : other ≠ name := fun same => distinct.1 (same ▸ among)
        simpa [Json.Value.text, Json.Value.key?] using differ
      rw [List.map_cons, List.eraseDupsBy_cons, kept, induction distinct.2]

/-- Names are methods as they are, where no two are equal. -/
theorem methodsOf_texts {names : List String} (distinct : names.Nodup) :
    methodsOf (.array (names.map .text)) = .ok (names.map .text) := by
  have keyed : (names.map Json.Value.text).all (fun value => value.key?.isSome) = true := by
    simp [Json.Value.text, Json.Value.key?]
  rw [methodsOf, keyed, if_pos rfl, eraseDupsBy_texts distinct]

/-- The values that are written for a type. -/
def ofType (type : CatalogType) : WrittenType where
  space := .text type.space
  name := .text type.name
  isSealed := .bool type.isSealed
  isValueType := .bool type.isValueType
  staticMethods := type.staticMethods.toList.map .text
  constructible := .bool type.constructible

/-- Each field is read from where it was written. -/
theorem ofJson_toJson (type : CatalogType) :
    ofJson type.toJson = .ok (ofType type) := by
  have methods := methodsOf_texts type.staticMethods.nodup_toList
  rw [CatalogType.toJson, ofJson]
  generalize written : fieldsOf _ _ _ _ _ _ = fields
  have found : ∀ name value, (.whole name, value) ∈ fields →
      Json.Value.field? fields name = some value := by
    intro name value listed
    exact Json.Value.field?_of_mem (written ▸ nodup_fieldsOf ..) listed
  have space := found "namespace" (.text type.space) (by simp [← written, fieldsOf])
  have name := found "name" (.text type.name) (by simp [← written, fieldsOf])
  have isSealed := found "is_sealed" (.bool type.isSealed) (by simp [← written, fieldsOf])
  have isValueType := found "is_value_type" (.bool type.isValueType)
    (by simp [← written, fieldsOf])
  have staticMethods := found "static_methods"
    (.array (type.staticMethods.toList.map .text)) (by simp [← written, fieldsOf])
  have constructible := found "constructible" (.bool type.constructible)
    (by simp [← written, fieldsOf])
  simp only [needed, flag, space, name, isSealed, isValueType, staticMethods, constructible,
    Option.getD_some, methods, ok_bind]
  rfl

theorem methodNames_ofType (type : CatalogType) :
    (ofType type).methodNames = type.staticMethods.toList := by
  rw [methodNames, ofType]
  simp [List.filterMap_map, Json.Value.text, Function.comp_def]

theorem type_ofType (type : CatalogType) : (ofType type).type = type := by
  have methods : NameSet.ofList (ofType type).methodNames = type.staticMethods := by
    ext name
    rw [methodNames_ofType, NameSet.mem_ofList, NameSet.mem_def]
  have space : (if (ofType type).space.isTruthy then (ofType type).space.shown.toString else "") =
      type.space := by
    by_cases empty : type.space = ""
    · simp [ofType, Json.Value.text, Json.Value.isTruthy, Json.LooseText.isEmpty, empty]
    · simp [ofType, Json.Value.text, Json.Value.isTruthy, Json.LooseText.isEmpty, empty,
        Json.Value.shown, Json.LooseText.toString]
  rw [WrittenType.type, methods, space]
  rfl

theorem isPlain_ofType (type : CatalogType) : (ofType type).isPlain = true := by
  simp [ofType, isPlain, Json.Value.text]

theorem isSome_key?_ofType (type : CatalogType) :
    (ofType type).key?.isSome = true := by
  rw [key?]
  split <;> rfl

end WrittenType

theorem CatalogEntry.ofJson_toJson (type : CatalogType) :
    ofJson type.toJson = .ok ⟨type, none⟩ := by
  have keyed := Option.isNone_eq_false_iff.2 (WrittenType.isSome_key?_ofType type)
  rw [ofJson_of_written (WrittenType.ofJson_toJson type), keyed, WrittenType.type_ofType,
    WrittenType.isPlain_ofType]
  rfl

/-! ## A list of types -/

/-- The document of a list of types. -/
def documentOf (types : List CatalogType) : Json.Value :=
  .object [(.whole "types", .array (types.map CatalogType.toJson))]

theorem textual_documentOf (types : List CatalogType) (depth : Nat) :
    Json.Textual (depth + 4) (documentOf types) := by
  refine .object ?_ ?_ ?_
  · simp
  · simp
  · rw [List.forall_mem_singleton]
    refine .array fun item member => ?_
    rcases List.mem_map.1 member with ⟨type, -, rfl⟩
    exact type.textual_toJson depth

namespace Catalog

/-- The document of a list of types is read as the catalog of that list. -/
theorem ofDocument_write (path : Files.Path) (types : List CatalogType) :
    ofDocument path (Json.write (documentOf types)).toList = .ok (ofList types) := by
  have read : Json.read (Json.write (documentOf types)).toList = .ok (documentOf types) :=
    Json.read_write (textual_documentOf types 981)
  have entries : (types.map CatalogType.toJson).mapM CatalogEntry.ofJson =
      .ok (types.map fun type => ⟨type, none⟩) := by
    rw [mapM_eq_ok_iff, List.forall₂_map_left_iff, List.forall₂_map_right_iff,
      List.forall₂_same]
    exact fun type _ => CatalogEntry.ofJson_toJson type
  have built : ofEntries (types.map fun type => ⟨type, none⟩) = ofList types := by
    rw [ofEntries, List.foldl_map]
    rfl
  rw [ofDocument_of_read read]
  simp only [ofJson, documentOf, Json.Value.field?, List.lookup_cons_self, entries, built]
  rfl

theorem Plain.sorted_eq {catalog : Catalog} (plain : catalog.Plain) :
    catalog.sorted = .ok (catalog.inOrder.map fun type => ⟨type, none⟩) := by
  have texts : Json.Key.haveOrder
      ((catalog.toList.map fun type => (⟨type, none⟩ : CatalogEntry)).map CatalogEntry.key) =
        true := by
    have text : ∀ type : CatalogType, (⟨type, none⟩ : CatalogEntry).key.isText = true :=
      fun type => rfl
    simp [Json.Key.haveOrder, text]
  rw [sorted, plain.entries_eq, Json.sortByKey, if_pos texts, inOrder, List.map_mergeSort]
  intro left _ right _
  rfl

/-- What is saved of a plain catalog is the list of its types in order. -/
theorem Plain.document_eq {catalog : Catalog} (plain : catalog.Plain) :
    catalog.document = .ok (Json.write (documentOf catalog.inOrder)) := by
  have entries : (catalog.inOrder.map fun type => (⟨type, none⟩ : CatalogEntry)).mapM
      CatalogEntry.toJson = .ok (catalog.inOrder.map CatalogType.toJson) := by
    rw [mapM_eq_ok_iff, List.forall₂_map_left_iff, List.forall₂_map_right_iff,
      List.forall₂_same]
    exact fun type _ => rfl
  rw [document, toJson, plain.sorted_eq, ok_bind, entries]
  rfl

/-! ## Files -/

theorem Plain.save_eq
    {catalog : Catalog}
    (plain : catalog.Plain)
    (files : Files.Node)
    (path : Files.Path) :
    catalog.save files path =
      (files.write path
        (Text.Utf8.encode (Json.write (documentOf catalog.inOrder))).toArray).mapError .file := by
  rw [save, plain.document_eq]

/-- Where a plain catalog was saved, the list of its types in order is loaded. -/
theorem Plain.load_eq
    {catalog : Catalog}
    (plain : catalog.Plain)
    {files after : Files.Node}
    {path : Files.Path}
    (saved : catalog.save files path = .ok after) :
    load after path = .ok (ofList catalog.inOrder) := by
  rw [plain.save_eq] at saved
  cases written : files.write path
      (Text.Utf8.encode (Json.write (documentOf catalog.inOrder))).toArray with
  | error fault =>
      rw [written] at saved
      cases saved
  | ok changed =>
      rw [written] at saved
      cases saved
      have holds := holds_written (textual_documentOf catalog.inOrder 0)
        (Files.Node.read_write written)
      rw [load_of_holds holds]
      exact ofDocument_write path catalog.inOrder

/-- The list of the types in order makes a catalog that tells the same. -/
theorem Plain.get?_ofList_inOrder
    {catalog : Catalog}
    (plain : catalog.Plain)
    (qualified : String) :
    (ofList catalog.inOrder).get? qualified = catalog.get? qualified := by
  refine Option.ext fun type => ?_
  rw [(plain_ofList _).get?_eq_some, plain.get?_eq_some, toList_ofList plain.nodup_inOrder,
    catalog.inOrder_perm.mem_iff]

/--
A plain catalog has a text, and saving it writes this text.  Wherever it was
saved it can be loaded, with the same types under the same names, listed in
order of their names.  The loaded catalog has the same text again, and so has
every plain catalog that lists the same types, in whichever order.
-/
theorem load_save {catalog : Catalog} (plain : catalog.Plain) :
    ∃ text, catalog.document = .ok text ∧
      (∀ files path, catalog.save files path =
        (files.write path (Text.Utf8.encode text).toArray).mapError .file) ∧
      (∀ files path after, catalog.save files path = .ok after →
        ∃ loaded, load after path = .ok loaded ∧ loaded.Plain ∧
          (∀ qualified, loaded.get? qualified = catalog.get? qualified) ∧
          (loaded.toList.Pairwise fun left right =>
            left.qualifiedName < right.qualifiedName) ∧
          loaded.save = catalog.save) ∧
      ∀ other : Catalog, other.Plain →
        (∀ qualified, other.get? qualified = catalog.get? qualified) →
          other.save = catalog.save := by
  have sameText : ∀ other : Catalog, other.Plain →
      (∀ qualified, other.get? qualified = catalog.get? qualified) →
        other.save = catalog.save := by
    intro other plainOther same
    funext files path
    rw [plainOther.save_eq, plain.save_eq, plain.inOrder_congr plainOther same]
  refine ⟨_, plain.document_eq, plain.save_eq, ?_, sameText⟩
  intro files path after saved
  refine ⟨_, plain.load_eq saved, plain_ofList _, plain.get?_ofList_inOrder, ?_,
    sameText _ (plain_ofList _) plain.get?_ofList_inOrder⟩
  rw [toList_ofList plain.nodup_inOrder]
  exact plain.pairwise_inOrder

/-- Two types, out of order, with characters of all kinds in their names. -/
def escapedTypes : List CatalogType :=
  [{ space := "Größe", name := "\"\n\\😀", isSealed := false, isValueType := true,
     staticMethods := .ofList ["é", "\t"], constructible := true },
   { space := "", name := "Counter" }]

/-- A quote, a line feed and a character beyond the first plane come back, in either order. -/
theorem load_save_escapedTypes :
    (ofList escapedTypes).Plain ∧
      ∃ after loaded, (ofList escapedTypes).save .empty ⟨"", ["catalog.json"]⟩ = .ok after ∧
        load after ⟨"", ["catalog.json"]⟩ = .ok loaded ∧
        (∀ qualified, loaded.get? qualified = (ofList escapedTypes).get? qualified) ∧
        loaded.save = (ofList escapedTypes).save ∧
        (ofList escapedTypes.reverse).save = (ofList escapedTypes).save := by
  have plain : (ofList escapedTypes).Plain := plain_ofList escapedTypes
  rcases load_save plain with ⟨text, -, saves, loads, orders⟩
  have saved : (ofList escapedTypes).save .empty ⟨"", ["catalog.json"]⟩ =
      .ok (.folder [("catalog.json", .file (Text.Utf8.encode text).toArray)]) := by
    rw [saves]
    rfl
  have turned : ∀ qualified, (ofList escapedTypes.reverse).get? qualified =
      (ofList escapedTypes).get? qualified := by
    intro qualified
    refine Option.ext fun type => ?_
    rw [(plain_ofList _).get?_eq_some, plain.get?_eq_some, toList_ofList (by decide),
      toList_ofList (by decide), List.mem_reverse]
  rcases loads _ _ _ saved with ⟨loaded, load, -, same, -, again⟩
  exact ⟨plain, _, loaded, saved, load, same, again, orders _ (plain_ofList _) turned⟩

end Catalog

end WinrtLint
