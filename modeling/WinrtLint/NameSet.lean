/-!
# Sets of names

A set of strings is kept as its strictly increasing list, by code point, so
that equal sets are equal values and iteration is sorted.
-/

namespace WinrtLint

/-- Put a name at its place in an increasing list, unless it is there already. -/
def insertName (name : String) : List String → List String
  | [] => [name]
  | head :: rest =>
      if name < head then name :: head :: rest
      else if head < name then head :: insertName name rest
      else head :: rest

theorem eq_of_not_lt
    {left right : String}
    (notLess : ¬ left < right)
    (notGreater : ¬ right < left) :
    left = right :=
  String.le_antisymm (String.not_lt.1 notGreater) (String.not_lt.1 notLess)

@[simp]
theorem mem_insertName (name other : String) (names : List String) :
    other ∈ insertName name names ↔ other = name ∨ other ∈ names := by
  induction names with
  | nil => simp [insertName]
  | cons head rest induction =>
      simp only [insertName]
      split
      · simp
      · split
        · simp only [List.mem_cons, induction]
          grind
        · rename_i notLess notGreater
          have same : name = head := eq_of_not_lt notLess notGreater
          subst same
          simp only [List.mem_cons]
          grind

theorem pairwise_insertName
    (name : String)
    {names : List String}
    (ordered : names.Pairwise (· < ·)) :
    (insertName name names).Pairwise (· < ·) := by
  induction names with
  | nil => simp [insertName]
  | cons head rest induction =>
      have headLess := (List.pairwise_cons.1 ordered).1
      have restOrdered := (List.pairwise_cons.1 ordered).2
      simp only [insertName]
      split
      · rename_i less
        refine List.pairwise_cons.2 ⟨?_, ordered⟩
        intro other member
        cases List.mem_cons.1 member with
        | inl same => exact same ▸ less
        | inr later => exact String.lt_trans less (headLess other later)
      · split
        · rename_i greater
          refine List.pairwise_cons.2 ⟨?_, induction restOrdered⟩
          intro other member
          cases (mem_insertName name other rest).1 member with
          | inl same => exact same ▸ greater
          | inr later => exact headLess other later
        · exact ordered

/-! ### Putting two lists together -/

/-- Put two increasing lists together; a name of both stands in the result once. -/
def mergeNames : List String → List String → List String
  | [], right => right
  | name :: left, right =>
      right.takeWhile (· < name) ++
        name :: mergeNames left (right.dropWhile fun other => !(name < other))

theorem lt_of_mem_takeWhile
    {name other : String}
    {names : List String}
    (member : other ∈ names.takeWhile (· < name)) :
    other < name := by
  induction names with
  | nil => simp at member
  | cons head rest induction =>
      rw [List.takeWhile_cons] at member
      split at member
      · rename_i less
        cases List.mem_cons.1 member with
        | inl same => exact same ▸ of_decide_eq_true less
        | inr later => exact induction later
      · simp at member

theorem lt_of_mem_dropWhile
    {name other : String}
    {names : List String}
    (ordered : names.Pairwise (· < ·))
    (member : other ∈ names.dropWhile fun other => !(name < other)) :
    name < other := by
  induction names with
  | nil => simp at member
  | cons head rest induction =>
      have headLess := (List.pairwise_cons.1 ordered).1
      rw [List.dropWhile_cons] at member
      split at member
      · exact induction (List.pairwise_cons.1 ordered).2 member
      · rename_i greater
        have less : name < head := by simpa using greater
        cases List.mem_cons.1 member with
        | inl same => exact same ▸ less
        | inr later => exact String.lt_trans less (headLess other later)

theorem mem_around
    {name other : String}
    {names : List String}
    (ordered : names.Pairwise (· < ·))
    (member : other ∈ names) :
    other ∈ names.takeWhile (· < name) ∨ other = name ∨
      other ∈ names.dropWhile fun other => !(name < other) := by
  induction names with
  | nil => simp at member
  | cons head rest induction =>
      have headLess := (List.pairwise_cons.1 ordered).1
      have restOrdered := (List.pairwise_cons.1 ordered).2
      by_cases greater : name < head
      · have kept : (head :: rest).dropWhile (fun other => !decide (name < other)) =
            head :: rest :=
          List.dropWhile_cons_of_neg (by rw [decide_eq_true greater]; exact Bool.false_ne_true)
        rw [kept]
        exact Or.inr (Or.inr member)
      · have dropped : (head :: rest).dropWhile (fun other => !decide (name < other)) =
            rest.dropWhile fun other => !decide (name < other) :=
          List.dropWhile_cons_of_pos (by rw [decide_eq_false greater]; rfl)
        rw [dropped]
        by_cases less : head < name
        · have taken : (head :: rest).takeWhile (· < name) =
              head :: rest.takeWhile (· < name) :=
            List.takeWhile_cons_of_pos (decide_eq_true less)
          rw [taken]
          cases List.mem_cons.1 member with
          | inl same => exact Or.inl (List.mem_cons.2 (Or.inl same))
          | inr later =>
              cases induction restOrdered later with
              | inl early => exact Or.inl (List.mem_cons_of_mem _ early)
              | inr behind => exact Or.inr behind
        · have same : head = name := eq_of_not_lt less greater
          cases List.mem_cons.1 member with
          | inl here => exact Or.inr (Or.inl (here.trans same))
          | inr later =>
              cases induction restOrdered later with
              | inl early =>
                  exact absurd (lt_of_mem_takeWhile early)
                    (String.lt_asymm (same ▸ headLess other later))
              | inr behind => exact Or.inr behind

theorem mem_mergeNames
    {other : String}
    {left right : List String}
    (ordered : right.Pairwise (· < ·)) :
    other ∈ mergeNames left right ↔ other ∈ left ∨ other ∈ right := by
  induction left generalizing right with
  | nil => simp [mergeNames]
  | cons name left induction =>
      have restOrdered := ordered.sublist
        (List.dropWhile_sublist fun other => !(name < other))
      simp only [mergeNames, List.mem_append, List.mem_cons, induction restOrdered]
      constructor
      · rintro (early | same | inLeft | late)
        · exact Or.inr ((List.takeWhile_sublist _).subset early)
        · exact Or.inl (Or.inl same)
        · exact Or.inl (Or.inr inLeft)
        · exact Or.inr ((List.dropWhile_sublist _).subset late)
      · rintro ((same | inLeft) | inRight)
        · exact Or.inr (Or.inl same)
        · exact Or.inr (Or.inr (Or.inl inLeft))
        · rcases mem_around ordered inRight with early | same | late
          · exact Or.inl early
          · exact Or.inr (Or.inl same)
          · exact Or.inr (Or.inr (Or.inr late))

theorem pairwise_mergeNames
    {left right : List String}
    (leftOrdered : left.Pairwise (· < ·))
    (rightOrdered : right.Pairwise (· < ·)) :
    (mergeNames left right).Pairwise (· < ·) := by
  induction left generalizing right with
  | nil => exact rightOrdered
  | cons name left induction =>
      have nameLess := (List.pairwise_cons.1 leftOrdered).1
      have restOrdered := rightOrdered.sublist
        (List.dropWhile_sublist fun other => !(name < other))
      have behind : ∀ other ∈ mergeNames left (right.dropWhile fun other => !(name < other)),
          name < other := by
        intro other member
        cases (mem_mergeNames restOrdered).1 member with
        | inl inLeft => exact nameLess other inLeft
        | inr inRight => exact lt_of_mem_dropWhile rightOrdered inRight
      refine List.pairwise_append.2
        ⟨rightOrdered.sublist (List.takeWhile_sublist _),
          List.pairwise_cons.2
            ⟨behind, induction (List.pairwise_cons.1 leftOrdered).2 restOrdered⟩, ?_⟩
      intro early memberEarly late memberLate
      have before := lt_of_mem_takeWhile memberEarly
      cases List.mem_cons.1 memberLate with
      | inl same => exact same ▸ before
      | inr later => exact String.lt_trans before (behind late later)

/-- A finite set of names. -/
structure NameSet where
  /-- The names in increasing order. -/
  toList : List String
  /-- No name stands twice, and each stands before the greater ones. -/
  ordered : toList.Pairwise (· < ·)
  deriving DecidableEq

namespace NameSet

/-- The set without names. -/
def empty : NameSet :=
  ⟨[], List.Pairwise.nil⟩

instance : Inhabited NameSet :=
  ⟨empty⟩

instance : EmptyCollection NameSet :=
  ⟨empty⟩

/-- Add a name. -/
def insert (names : NameSet) (name : String) : NameSet :=
  ⟨insertName name names.toList, pairwise_insertName name names.ordered⟩

/-- The names of two sets together. -/
def union (left right : NameSet) : NameSet :=
  ⟨mergeNames left.toList right.toList, pairwise_mergeNames left.ordered right.ordered⟩

/-- The set of one name. -/
def singleton (name : String) : NameSet :=
  empty.insert name

/-- Unite the sets of a list in pairs. -/
def unitePairs : List NameSet → List NameSet
  | first :: second :: rest => first.union second :: unitePairs rest
  | sets => sets

/--
The names of all sets of a list.  They are united in pairs, and the results
again, so that no name is compared with very many others; the count bounds
these rounds.
-/
def uniteAll : Nat → List NameSet → NameSet
  | 0, sets => sets.foldr union empty
  | _ + 1, [] => empty
  | _ + 1, [set] => set
  | count + 1, sets => uniteAll count (unitePairs sets)

/-- The set of the names in a list. -/
def ofList (names : List String) : NameSet :=
  uniteAll names.length (names.map singleton)

/-- Add every name of a list. -/
def insertAll (names : NameSet) (more : List String) : NameSet :=
  names.union (ofList more)

/-- Whether a name belongs to the set. -/
def contains (names : NameSet) (name : String) : Bool :=
  names.toList.contains name

/-- How many names the set has. -/
def size (names : NameSet) : Nat :=
  names.toList.length

instance : Membership String NameSet :=
  ⟨fun names name => name ∈ names.toList⟩

theorem mem_def {names : NameSet} {name : String} :
    name ∈ names ↔ name ∈ names.toList :=
  Iff.rfl

theorem nodup_toList (names : NameSet) : names.toList.Nodup := by
  refine names.ordered.imp ?_
  intro left right less same
  subst same
  exact String.lt_irrefl left less

/-- Sets with the same names are equal. -/
@[ext]
theorem ext {left right : NameSet} (same : ∀ name, name ∈ left ↔ name ∈ right) :
    left = right := by
  have rearranged : left.toList.Perm right.toList :=
    (List.perm_ext_iff_of_nodup left.nodup_toList right.nodup_toList).2 same
  have increasing : left.toList = right.toList :=
    rearranged.eq_of_pairwise
      (fun _ _ _ _ less greater => absurd greater (String.lt_asymm less))
      left.ordered right.ordered
  cases left
  cases right
  cases increasing
  rfl

@[simp]
theorem contains_iff {names : NameSet} {name : String} :
    names.contains name = true ↔ name ∈ names := by
  simp [contains, mem_def]

@[simp]
theorem not_mem_empty (name : String) : name ∉ empty := by
  simp [mem_def, empty]

@[simp]
theorem mem_insert {names : NameSet} {name other : String} :
    other ∈ names.insert name ↔ other = name ∨ other ∈ names := by
  simp [mem_def, insert]

@[simp]
theorem mem_union {left right : NameSet} {name : String} :
    name ∈ left.union right ↔ name ∈ left ∨ name ∈ right :=
  mem_mergeNames right.ordered

@[simp]
theorem mem_singleton {name other : String} :
    other ∈ singleton name ↔ other = name := by
  simp [singleton]

theorem mem_unitePairs {sets : List NameSet} {name : String} :
    (∃ set ∈ unitePairs sets, name ∈ set) ↔ ∃ set ∈ sets, name ∈ set := by
  fun_induction unitePairs sets with
  | case1 first second rest induction => simp [induction, or_assoc]
  | case2 => rfl

theorem mem_uniteAll {count : Nat} {sets : List NameSet} {name : String} :
    name ∈ uniteAll count sets ↔ ∃ set ∈ sets, name ∈ set := by
  fun_induction uniteAll count sets with
  | case1 sets =>
      induction sets with
      | nil => simp
      | cons set rest induction => simp [induction]
  | case2 => simp
  | case3 => simp
  | case4 count sets _ _ induction => rw [induction, mem_unitePairs]

@[simp]
theorem mem_ofList {names : List String} {name : String} :
    name ∈ ofList names ↔ name ∈ names := by
  rw [ofList, mem_uniteAll]
  constructor
  · rintro ⟨set, member, inside⟩
    obtain ⟨other, listed, rfl⟩ := List.mem_map.1 member
    exact mem_singleton.1 inside ▸ listed
  · exact fun listed => ⟨singleton name, List.mem_map.2 ⟨name, listed, rfl⟩, by simp⟩

@[simp]
theorem mem_insertAll {names : NameSet} {more : List String} {name : String} :
    name ∈ names.insertAll more ↔ name ∈ names ∨ name ∈ more := by
  simp [insertAll]

end NameSet

end WinrtLint
