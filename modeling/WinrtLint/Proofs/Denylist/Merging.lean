import WinrtLint.Denylist.Registry
import WinrtLint.Proofs.Outcome

/-!
# What registries hold

A registry accepts keys each of which names a member (`exists_ofKeys`), its
members are those that its keys name (`mem_members`), and its types are the
owners of these (`mem_types`).  So entries that make a registry on their own can
be merged into any other, and what the result lists is what one of the two
lists, keys and types alike (`exists_merge`).
-/

namespace WinrtLint.Registry

open WinrtLint.Outcome

theorem keys_of_ofKeys
    {keys : NameSet}
    {registry : Registry}
    (accepted : ofKeys keys = .ok registry) :
    registry.keys = keys := by
  rw [ofKeys] at accepted
  split at accepted
  · cases accepted
    rfl
  · cases accepted

/-- Keys each of which names a member make a registry. -/
theorem exists_ofKeys
    {keys : NameSet}
    (named : ∀ key ∈ keys, ∃ member, Member.parse key = .ok member) :
    ∃ registry, ofKeys keys = .ok registry ∧ registry.keys = keys := by
  rcases exists_mapM named with ⟨members, parsed⟩
  have built : ofKeys keys = .ok ⟨keys, members, parsed, _, rfl⟩ := by
    rw [ofKeys]
    split
    · rename_i others accepted
      rw [parsed] at accepted
      cases accepted
      rfl
    · rename_i fault refused
      rw [parsed] at refused
      cases refused
  exact ⟨_, built, rfl⟩

/-- Keys make a registry exactly where each of them names a member. -/
theorem exists_ofKeys_iff {keys : NameSet} :
    (∃ registry, ofKeys keys = .ok registry) ↔
      ∀ key ∈ keys, ∃ member, Member.parse key = .ok member := by
  constructor
  · rintro ⟨registry, accepted⟩ key listed
    rw [← keys_of_ofKeys accepted] at listed
    rcases exists_mem_of_mapM registry.parsed listed with ⟨member, -, read⟩
    exact ⟨member, read⟩
  · intro named
    rcases exists_ofKeys named with ⟨registry, built, -⟩
    exact ⟨registry, built⟩

/-- Keys are turned down for what is wrong with one of them. -/
theorem exists_mem_of_ofKeys_error
    {keys : NameSet}
    {fault : EntryError}
    (refused : ofKeys keys = .error fault) :
    ∃ key ∈ keys, Member.parse key = .error fault := by
  rw [ofKeys] at refused
  split at refused
  · cases refused
  · rename_i failed
    cases refused
    exact exists_mem_of_mapM_error failed

/-- Registries with the same keys are equal. -/
theorem eq_of_keys {left right : Registry} (same : left.keys = right.keys) :
    left = right := by
  rcases left with ⟨keys, members, parsed, types, rfl⟩
  rcases right with ⟨otherKeys, otherMembers, otherParsed, otherTypes, rfl⟩
  cases same
  cases parsed.symm.trans otherParsed
  rfl

theorem mem_members {registry : Registry} {member : Member} :
    member ∈ registry.members ↔ ∃ key ∈ registry.keys, Member.parse key = .ok member :=
  mem_results_iff registry.parsed

theorem exists_member
    {registry : Registry}
    {key : String}
    (listed : registry.contains key = true) :
    ∃ member ∈ registry.members, Member.parse key = .ok member :=
  exists_mem_of_mapM registry.parsed (NameSet.contains_iff.1 listed)

theorem mem_types {registry : Registry} {owner : String} :
    owner ∈ registry.types ↔ ∃ member ∈ registry.members, member.owner = owner := by
  rw [registry.types_eq, NameSet.mem_ofList, List.mem_map]

/-- One registry lists what two others list between them. -/
structure Unites (left right whole : Registry) : Prop where
  contains key : whole.contains key = (left.contains key || right.contains key)
  containsType owner :
    whole.containsType owner = (left.containsType owner || right.containsType owner)

/-- A registry whose keys are those of two others has their types too. -/
theorem unites_of_keys
    {left right whole : Registry}
    (keys : ∀ key, key ∈ whole.keys ↔ key ∈ left.keys ∨ key ∈ right.keys) :
    Unites left right whole where
  contains key := by
    rw [Bool.eq_iff_iff, Bool.or_eq_true]
    simp only [contains, NameSet.contains_iff, keys]
  containsType owner := by
    rw [Bool.eq_iff_iff, Bool.or_eq_true]
    simp only [containsType, NameSet.contains_iff, mem_types, mem_members, keys, or_and_right,
      exists_or]

/-- Entries that make a registry on their own can be merged into any other one. -/
theorem exists_merge
    {added : Registry}
    {entries : List String}
    (registry : Registry)
    (accepted : ofEntries entries = .ok added) :
    ∃ merged, registry.merge entries = .ok merged ∧ Unites registry added merged := by
  have listed : ∀ key, key ∈ added.keys ↔ key ∈ entries := by
    intro key
    rw [keys_of_ofKeys accepted, NameSet.mem_ofList]
  have named : ∀ key ∈ registry.keys.insertAll entries,
      ∃ member, Member.parse key = .ok member := by
    intro key member
    rcases NameSet.mem_insertAll.1 member with old | new
    · rcases exists_mem_of_mapM registry.parsed old with ⟨found, -, read⟩
      exact ⟨found, read⟩
    · rcases exists_mem_of_mapM added.parsed ((listed key).2 new) with ⟨found, -, read⟩
      exact ⟨found, read⟩
  rcases exists_ofKeys named with ⟨merged, built, keys⟩
  refine ⟨merged, built, unites_of_keys ?_⟩
  intro key
  rw [keys, NameSet.mem_insertAll, listed]

end WinrtLint.Registry
