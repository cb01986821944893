import Mathlib.Data.Finset.Card
import WinrtLint.Proofs.Denylist.Merging

/-!
# Registries through merges that succeed or fail

A registry is built of entries and then merged with others, one attempt after
another.  An attempt fails where one of its entries cannot be read, and then
leaves the registry as it is; one that succeeds adds its entries.  So the keys
of a registry are at any time the entries that were accepted until then
(`Lists.attempt` for one attempt, `Lists.attemptAll` for a run of them).  All
answers follow from the keys, so neither the order nor the repetition of what
was accepted counts.
-/

namespace WinrtLint.Registry

open WinrtLint.Outcome

/-- Whether each of some entries can be read. -/
def Readable (entries : List String) : Prop :=
  ∀ entry ∈ entries, ∃ member, Member.parse entry = .ok member

instance (entries : List String) : Decidable (Readable entries) :=
  decidable_of_iff (∀ entry ∈ entries, (Member.parse entry).isOk = true) <| by
    refine forall₂_congr fun entry _ => ?_
    cases Member.parse entry <;> simp [Except.isOk, Except.toBool]

theorem exists_ofEntries_iff {entries : List String} :
    (∃ registry, ofEntries entries = .ok registry) ↔ Readable entries := by
  simp only [ofEntries, exists_ofKeys_iff, NameSet.mem_ofList, Readable]

/-- What a registry lists already does not keep back further entries. -/
theorem exists_merge_iff {registry : Registry} {entries : List String} :
    (∃ merged, registry.merge entries = .ok merged) ↔ Readable entries := by
  simp only [merge, exists_ofKeys_iff, NameSet.mem_insertAll, Readable]
  constructor
  · exact fun named entry added => named entry (Or.inr added)
  · rintro readable key (old | new)
    · rcases exists_member (NameSet.contains_iff.2 old) with ⟨member, -, read⟩
      exact ⟨member, read⟩
    · exact readable key new

theorem exists_mem_of_ofEntries_error
    {entries : List String}
    {fault : EntryError}
    (refused : ofEntries entries = .error fault) :
    ∃ entry ∈ entries, Member.parse entry = .error fault := by
  rcases exists_mem_of_ofKeys_error refused with ⟨key, listed, unread⟩
  exact ⟨key, NameSet.mem_ofList.1 listed, unread⟩

/-- A merge is turned down for one of the entries that were to be added. -/
theorem exists_mem_of_merge_error
    {registry : Registry}
    {entries : List String}
    {fault : EntryError}
    (refused : registry.merge entries = .error fault) :
    ∃ entry ∈ entries, Member.parse entry = .error fault := by
  rcases exists_mem_of_ofKeys_error refused with ⟨key, listed, unread⟩
  rcases NameSet.mem_insertAll.1 listed with old | new
  · rcases exists_member (NameSet.contains_iff.2 old) with ⟨member, -, read⟩
    rw [unread] at read
    cases read
  · exact ⟨key, new, unread⟩

/-! ## Attempts -/

/-- The registry after an attempt to merge entries into it. -/
def attempt (registry : Registry) (entries : List String) : Registry :=
  match registry.merge entries with
  | .ok merged => merged
  | .error _ => registry

/-- The registry after attempts one after another. -/
def attemptAll (registry : Registry) (attempts : List (List String)) :
    Registry :=
  attempts.foldl attempt registry

/-- The entries of those attempts that succeed when they are made one after another. -/
def accepted (registry : Registry) : List (List String) → List String
  | [] => []
  | entries :: rest =>
      match registry.merge entries with
      | .ok merged => entries ++ merged.accepted rest
      | .error _ => registry.accepted rest

/-- Whether an attempt succeeds does not depend on those before it. -/
theorem mem_accepted
    {registry : Registry}
    {attempts : List (List String)}
    {key : String} :
    key ∈ registry.accepted attempts ↔
      ∃ entries ∈ attempts, Readable entries ∧ key ∈ entries := by
  induction attempts generalizing registry with
  | nil => simp [accepted]
  | cons entries rest induction =>
      rw [accepted, List.exists_mem_cons_iff, ← @exists_merge_iff registry entries]
      cases registry.merge entries <;> simp [induction]

/-- Whether a registry lists exactly some entries. -/
def Lists (registry : Registry) (entries : List String) : Prop :=
  ∀ key, registry.contains key = true ↔ key ∈ entries

theorem lists_of_ofEntries
    {registry : Registry}
    {entries : List String}
    (built : ofEntries entries = .ok registry) :
    registry.Lists entries := by
  intro key
  rw [contains, keys_of_ofKeys built, NameSet.contains_iff, NameSet.mem_ofList]

section

variable {registry : Registry} {entries : List String}

/-- An attempt adds the entries that it is about, or none of them. -/
theorem Lists.attempt (lists : registry.Lists entries) (more : List String) :
    (registry.attempt more).Lists (entries ++ registry.accepted [more]) := by
  intro key
  rw [Registry.attempt, accepted]
  cases outcome : registry.merge more with
  | error fault => simpa [accepted] using lists key
  | ok merged =>
      have listed := lists key
      rw [contains, NameSet.contains_iff] at listed ⊢
      rw [keys_of_ofKeys outcome, NameSet.mem_insertAll, listed]
      simp [accepted]

theorem accepted_cons
    (registry : Registry)
    (more : List String)
    (rest : List (List String)) :
    registry.accepted (more :: rest) =
      registry.accepted [more] ++ (registry.attempt more).accepted rest := by
  rw [accepted, accepted, attempt]
  cases registry.merge more <;> simp [accepted]

/-- After attempts a registry lists what it listed before and what was accepted. -/
theorem Lists.attemptAll
    (lists : registry.Lists entries)
    (attempts : List (List String)) :
    (registry.attemptAll attempts).Lists (entries ++ registry.accepted attempts) := by
  induction attempts generalizing registry entries with
  | nil => simpa [Registry.attemptAll, accepted] using lists
  | cons more rest induction =>
      rw [accepted_cons, ← List.append_assoc]
      exact induction (lists.attempt more)

/-! ## Answers -/

/-- Whether a registry answers every question from some entries alone. -/
structure Answers (registry : Registry) (entries : List String) : Prop where
  contains_iff : ∀ key, registry.contains key = true ↔ key ∈ entries
  containsType_iff : ∀ owner, registry.containsType owner = true ↔
    ∃ key ∈ entries, ∃ member, Member.parse key = .ok member ∧ member.owner = owner
  size_eq : registry.size = entries.toFinset.card
  mem_toList : ∀ key, key ∈ registry.toList ↔ key ∈ entries
  increasing : registry.toList.Pairwise (· < ·)
  members : List.Forall₂ (fun key member => Member.parse key = .ok member) registry.toList
    registry.members

theorem Lists.answers (lists : registry.Lists entries) :
    registry.Answers entries := by
  have listed : ∀ key, key ∈ registry.keys ↔ key ∈ entries := by
    intro key
    rw [← lists key, contains, NameSet.contains_iff]
  constructor
  · exact lists
  · intro owner
    rw [containsType, NameSet.contains_iff, mem_types]
    simp only [mem_members, listed]
    constructor
    · rintro ⟨member, ⟨key, among, read⟩, owned⟩
      exact ⟨key, among, member, read, owned⟩
    · rintro ⟨key, among, member, read, owned⟩
      exact ⟨member, ⟨key, among, read⟩, owned⟩
  · have same : registry.keys.toList.toFinset = entries.toFinset := by
      ext key
      rw [List.mem_toFinset, List.mem_toFinset]
      exact listed key
    rw [← same, List.toFinset_card_of_nodup registry.keys.nodup_toList]
    rfl
  · exact listed
  · exact registry.keys.ordered
  · exact mapM_eq_ok_iff.1 registry.parsed

/-- Registries that list the same entries are equal. -/
theorem Lists.eq
    {other : Registry}
    {others : List String}
    (lists : registry.Lists entries)
    (otherLists : other.Lists others)
    (same : ∀ key, key ∈ entries ↔ key ∈ others) :
    registry = other := by
  apply eq_of_keys
  ext key
  rw [← NameSet.contains_iff, ← NameSet.contains_iff]
  exact (lists key).trans ((same key).trans (otherLists key).symm)

end

/--
A registry is the set of its accepted entries.  Building and merging fail
exactly where an entry cannot be read, for the fault of such an entry, and a
merge that fails leaves the registry.  After any run of attempts a registry
answers from the entries it was built of and those of the attempts that
succeeded, and two runs that accepted the same entries lead to one registry.
-/
theorem registry_is_accepted_entries :
    (∀ entries,
      ((∃ registry, ofEntries entries = .ok registry) ↔ Readable entries) ∧
      ∀ fault, ofEntries entries = .error fault →
        ∃ entry ∈ entries, Member.parse entry = .error fault) ∧
    (∀ registry entries,
      ((∃ merged, merge registry entries = .ok merged) ↔ Readable entries) ∧
      ∀ fault, merge registry entries = .error fault →
        (∃ entry ∈ entries, Member.parse entry = .error fault) ∧
          attempt registry entries = registry) ∧
    (∀ initial start attempts, ofEntries initial = .ok start →
      (start.attemptAll attempts).Answers (initial ++ start.accepted attempts) ∧
      ∀ key, key ∈ start.accepted attempts ↔
        ∃ entries ∈ attempts, Readable entries ∧ key ∈ entries) ∧
    ∀ initial start attempts other otherStart otherAttempts,
      ofEntries initial = .ok start → ofEntries other = .ok otherStart →
      (∀ key, key ∈ initial ++ start.accepted attempts ↔
        key ∈ other ++ otherStart.accepted otherAttempts) →
      start.attemptAll attempts = otherStart.attemptAll otherAttempts := by
  refine ⟨?_, ?_, ?_, ?_⟩
  · exact fun entries => ⟨exists_ofEntries_iff, fun fault => exists_mem_of_ofEntries_error⟩
  · intro registry entries
    refine ⟨exists_merge_iff, fun fault refused => ?_⟩
    refine ⟨exists_mem_of_merge_error refused, ?_⟩
    rw [attempt, refused]
  · intro initial start attempts built
    exact ⟨((lists_of_ofEntries built).attemptAll attempts).answers, fun key => mem_accepted⟩
  · intro initial start attempts other otherStart otherAttempts built otherBuilt same
    exact ((lists_of_ofEntries built).attemptAll attempts).eq
      ((lists_of_ofEntries otherBuilt).attemptAll otherAttempts) same

/-- A merge of a good and a bad entry adds neither, and the one behind it is made all the same. -/
theorem registry_is_accepted_entries_refusedMerge :
    ∃ start, ofEntries ["Sample.Clock.Now", "Sample.Clock.Now"] = .ok start ∧
      ∀ key, (start.attemptAll [["Sample.Timer..ctor", "Timer"], ["Sample.Clock..ctor"]]).contains
          key = true ↔ key = "Sample.Clock.Now" ∨ key = "Sample.Clock..ctor" := by
  rcases registry_is_accepted_entries with ⟨builds, -, runs, -⟩
  rcases (builds ["Sample.Clock.Now", "Sample.Clock.Now"]).1.2 (by decide) with ⟨start, built⟩
  refine ⟨start, built, fun key => ?_⟩
  rcases runs _ start [["Sample.Timer..ctor", "Timer"], ["Sample.Clock..ctor"]] built with
    ⟨answers, accepted⟩
  have refused : ¬ Readable ["Sample.Timer..ctor", "Timer"] := by decide
  have merged : Readable ["Sample.Clock..ctor"] := by decide
  rw [answers.contains_iff, List.mem_append, accepted]
  simp [refused, merged]

end WinrtLint.Registry
