/-!
# Dictionaries in order of first insertion

A dictionary maps names, or keys of another type, to values.  It lists its
entries in the order in which their names first came in; a later value for a
name takes the place of the earlier one.
-/

namespace WinrtLint

/-- Replace the value of a name where the name stands, or append the entry. -/
def putEntry {Key Value : Type} [DecidableEq Key] (name : Key) (value : Value) :
    List (Key × Value) → List (Key × Value)
  | [] => [(name, value)]
  | entry :: rest =>
      if entry.1 = name then (name, value) :: rest
      else entry :: putEntry name value rest

/-- Names with a value each, in order of first insertion. -/
structure Dictionary (Key Value : Type) where
  /-- The entries; `insert` keeps their names distinct. -/
  entries : List (Key × Value)
  deriving DecidableEq, Inhabited

namespace Dictionary

variable {Key Value : Type}

/-- The dictionary without entries. -/
def empty : Dictionary Key Value :=
  ⟨[]⟩

variable [DecidableEq Key]

/-- Give a name a value. -/
def insert (dictionary : Dictionary Key Value) (name : Key) (value : Value) :
    Dictionary Key Value :=
  ⟨putEntry name value dictionary.entries⟩

/-- The value of a name. -/
def get? (dictionary : Dictionary Key Value) (name : Key) : Option Value :=
  (dictionary.entries.find? fun entry => entry.1 = name).map (·.2)

/-- Whether a name has a value. -/
def contains (dictionary : Dictionary Key Value) (name : Key) : Bool :=
  dictionary.entries.any fun entry => entry.1 = name

/-- How many names have a value. -/
def size (dictionary : Dictionary Key Value) : Nat :=
  dictionary.entries.length

/-- The values in order. -/
def values (dictionary : Dictionary Key Value) : List Value :=
  dictionary.entries.map (·.2)

/-- Replace every value by one made of it. -/
def map
    {Other : Type}
    (change : Value → Other)
    (dictionary : Dictionary Key Value) :
    Dictionary Key Other :=
  ⟨dictionary.entries.map fun entry => (entry.1, change entry.2)⟩

/-- Take away a name and its value. -/
def erase (dictionary : Dictionary Key Value) (name : Key) :
    Dictionary Key Value :=
  ⟨dictionary.entries.filter fun entry => entry.1 ≠ name⟩

/-- Insert entries one after another. -/
def ofList (entries : List (Key × Value)) : Dictionary Key Value :=
  entries.foldl (fun sofar entry => sofar.insert entry.1 entry.2) empty

@[simp]
theorem get?_empty (name : Key) :
    (empty : Dictionary Key Value).get? name = none :=
  rfl

theorem get?_insert
    (dictionary : Dictionary Key Value)
    (name other : Key)
    (value : Value) :
    (dictionary.insert name value).get? other =
      if name = other then some value else dictionary.get? other := by
  simp only [get?, insert]
  induction dictionary.entries with
  | nil => by_cases same : name = other <;> simp [putEntry, same]
  | cons entry rest induction =>
      simp only [putEntry]
      split
      · rename_i here
        by_cases same : name = other
        · simp [same]
        · simp [same, here]
      · rename_i elsewhere
        by_cases hit : entry.1 = other
        · have different : name ≠ other := fun same => elsewhere (hit.trans same.symm)
          simp [hit, different]
        · simpa [List.find?_cons, hit] using induction

theorem get?_map
    {Other : Type}
    (change : Value → Other)
    (dictionary : Dictionary Key Value)
    (name : Key) :
    (dictionary.map change).get? name = (dictionary.get? name).map change := by
  simp only [get?, map, List.find?_map, Option.map_map]
  rfl

theorem map_fst_map
    {Name Given Other : Type}
    (change : Given → Other)
    (dictionary : Dictionary Name Given) :
    (dictionary.map change).entries.map Prod.fst = dictionary.entries.map Prod.fst := by
  rw [map, List.map_map]
  rfl

theorem mem_putEntry
    {name : Key}
    {value : Value}
    {entries : List (Key × Value)}
    {entry : Key × Value}
    (member : entry ∈ putEntry name value entries) :
    entry = (name, value) ∨ entry ∈ entries := by
  induction entries with
  | nil => simpa [putEntry] using member
  | cons head rest induction =>
      simp only [putEntry] at member
      split at member
      · cases List.mem_cons.1 member with
        | inl here => exact Or.inl here
        | inr later => exact Or.inr (List.mem_cons_of_mem _ later)
      · cases List.mem_cons.1 member with
        | inl here => exact Or.inr (here ▸ List.mem_cons_self)
        | inr later =>
            cases induction later with
            | inl here => exact Or.inl here
            | inr earlier => exact Or.inr (List.mem_cons_of_mem _ earlier)

/-! ### Distinct names -/

theorem putEntry_of_not_mem
    {name : Key}
    (value : Value)
    {entries : List (Key × Value)}
    (new : name ∉ entries.map Prod.fst) :
    putEntry name value entries = entries ++ [(name, value)] := by
  induction entries with
  | nil => rfl
  | cons entry rest induction =>
      rw [List.map_cons, List.mem_cons, not_or] at new
      rw [putEntry, if_neg (Ne.symm new.1), induction new.2, List.cons_append]

/-- A name that has a value already keeps its place. -/
theorem map_fst_putEntry
    (name : Key)
    (value : Value)
    (entries : List (Key × Value)) :
    (putEntry name value entries).map Prod.fst =
      if name ∈ entries.map Prod.fst then entries.map Prod.fst
      else entries.map Prod.fst ++ [name] := by
  induction entries with
  | nil => simp [putEntry]
  | cons entry rest induction =>
      rw [putEntry]
      by_cases here : entry.1 = name
      · simp [here]
      · have other : name ≠ entry.1 := fun same => here same.symm
        rw [if_neg here, List.map_cons, induction]
        by_cases later : name ∈ rest.map Prod.fst <;> simp [later, other]

/-- The names stay distinct when a value is given to one. -/
theorem nodup_insert
    {dictionary : Dictionary Key Value}
    (distinct : (dictionary.entries.map Prod.fst).Nodup)
    (name : Key)
    (value : Value) :
    ((dictionary.insert name value).entries.map Prod.fst).Nodup := by
  rw [insert, map_fst_putEntry]
  split
  · exact distinct
  · rename_i new
    refine List.nodup_append.2 ⟨distinct, List.nodup_cons.2 ⟨by simp, List.nodup_nil⟩, ?_⟩
    intro listed member other last same
    rw [List.mem_singleton.1 last] at same
    exact new (same ▸ member)

theorem entries_foldl_insert
    {dictionary : Dictionary Key Value}
    {entries : List (Key × Value)}
    (distinct : ((dictionary.entries ++ entries).map Prod.fst).Nodup) :
    (entries.foldl (fun sofar entry => sofar.insert entry.1 entry.2) dictionary).entries =
      dictionary.entries ++ entries := by
  induction entries generalizing dictionary with
  | nil => simp
  | cons entry rest induction =>
      have new : entry.1 ∉ dictionary.entries.map Prod.fst := by
        rw [List.map_append, List.nodup_append] at distinct
        exact fun listed => distinct.2.2 _ listed _ (by simp) rfl
      have step : (dictionary.insert entry.1 entry.2).entries =
          dictionary.entries ++ [entry] :=
        putEntry_of_not_mem entry.2 new
      rw [List.foldl_cons, induction, step, List.append_assoc, List.singleton_append]
      rwa [step, List.append_assoc, List.singleton_append]

/-- Entries of distinct names are listed as they are. -/
theorem entries_ofList
    {entries : List (Key × Value)}
    (distinct : (entries.map Prod.fst).Nodup) :
    (ofList entries).entries = entries :=
  entries_foldl_insert distinct

/-! ### Insertion one after another -/

theorem map_fst_foldl_insert
    {dictionary : Dictionary Key Value}
    {names : List Key}
    (listed : dictionary.entries.map Prod.fst = names.eraseDups)
    (entries : List (Key × Value)) :
    (entries.foldl (fun sofar entry => sofar.insert entry.1 entry.2) dictionary).entries.map
      Prod.fst = (names ++ entries.map Prod.fst).eraseDups := by
  induction entries generalizing dictionary names with
  | nil => simpa using listed
  | cons entry rest induction =>
      have step : (dictionary.insert entry.1 entry.2).entries.map Prod.fst =
          (names ++ [entry.1]).eraseDups := by
        rw [insert, map_fst_putEntry, listed, List.eraseDups_append]
        by_cases earlier : entry.1 ∈ names <;> simp [List.removeAll, List.eraseDups_cons, earlier]
      rw [List.foldl_cons, induction step, List.append_assoc, List.map_cons,
        List.singleton_append]

/-- Every name stands where it first came in. -/
theorem map_fst_ofList (entries : List (Key × Value)) :
    (ofList entries).entries.map Prod.fst = (entries.map Prod.fst).eraseDups :=
  @map_fst_foldl_insert _ _ _ empty [] rfl entries

theorem get?_foldl_insert
    {name : Key}
    {entries : List (Key × Value)}
    (other : name ∉ entries.map Prod.fst)
    (dictionary : Dictionary Key Value) :
    (entries.foldl (fun sofar entry => sofar.insert entry.1 entry.2) dictionary).get? name =
      dictionary.get? name := by
  induction entries generalizing dictionary with
  | nil => rfl
  | cons entry rest induction =>
      rw [List.map_cons, List.mem_cons, not_or] at other
      rw [List.foldl_cons, induction other.2, get?_insert, if_neg (Ne.symm other.1)]

/-- The last value of a name counts. -/
theorem get?_ofList
    (before : List (Key × Value))
    {name : Key}
    (value : Value)
    {after : List (Key × Value)}
    (last : name ∉ after.map Prod.fst) :
    (ofList (before ++ (name, value) :: after)).get? name = some value := by
  rw [ofList, List.foldl_append, List.foldl_cons, get?_foldl_insert last, get?_insert, if_pos rfl]

/-! ### Values of names -/

/-- The value of a name is the one that stands beside it. -/
theorem get?_eq_some
    {dictionary : Dictionary Key Value}
    (distinct : (dictionary.entries.map Prod.fst).Nodup)
    {name : Key}
    {value : Value} :
    dictionary.get? name = some value ↔ (name, value) ∈ dictionary.entries := by
  rw [get?]
  generalize dictionary.entries = entries at distinct
  induction entries with
  | nil => simp
  | cons entry rest induction =>
      rw [List.map_cons, List.nodup_cons] at distinct
      rw [List.find?_cons, List.mem_cons]
      by_cases here : entry.1 = name
      · have alone : (name, value) ∉ rest :=
          fun later => distinct.1 (List.mem_map.2 ⟨_, later, here.symm⟩)
        simp only [here, decide_true, Option.map_some, Option.some.injEq, alone, or_false]
        rw [← here, Prod.mk.injEq]
        simp [eq_comm]
      · have other : (name, value) ≠ entry := fun same => here (same ▸ rfl)
        simp only [here, decide_false, other, false_or]
        exact induction distinct.2

end Dictionary

end WinrtLint
