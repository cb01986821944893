import WinrtLint.Denylist.Member
import WinrtLint.Proofs.Text.Cuts

/-!
# Keys of members

The name of constructors begins with the mark at which keys are cut, so a key
that ends like that of a constructor could be cut at two places.  It is always
taken for a constructor.  What a key is read as is told by one relation
(`Member.parse_eq_ok`): it is the key of a constructor, or of a method whose
name has no dot and whose key is not also that of a constructor.  So nothing is
lost on reading, and the key of a method reads back as the method unless its
owner ends in a dot (`Member.parse_memberKey`).
-/

namespace WinrtLint

theorem toList_memberKey (owner name : String) :
    (memberKey owner name).toList = owner.toList ++ '.' :: name.toList := by
  simp [memberKey]

namespace Member

variable {key owner name : String} {member : Member}

/-- What is read from a key. -/
inductive ReadFrom : String → Member → Prop where
  | constructor {owner : String} (owned : owner ≠ "") :
      ReadFrom (memberKey owner constructorName) ⟨owner, constructorName, .constructor⟩
  | staticMethod
      {owner name : String}
      (owned : owner ≠ "")
      (named : name ≠ "")
      (dotFree : '.' ∉ name.toList)
      (apart : ∀ other, memberKey owner name ≠ memberKey other constructorName) :
      ReadFrom (memberKey owner name) ⟨owner, name, .staticMethod⟩

theorem constructorKey_eq (owner : String) :
    memberKey owner constructorName = owner ++ "..ctor" := by
  rw [memberKey, String.append_assoc]
  rfl

theorem toList_constructorKey (owner : String) :
    (memberKey owner constructorName).toList = owner.toList ++ constructorEnding := by
  rw [toList_memberKey]
  rfl

theorem beforeEnd?_eq_some :
    Text.beforeEnd? constructorEnding key.toList = some owner.toList ↔
      key = memberKey owner constructorName := by
  rw [Text.beforeEnd?_eq_some, ← String.toList_inj, toList_constructorKey]

theorem cutLast?_eq_some :
    Text.cutLast? '.' key.toList = some (owner.toList, name.toList) ↔
      key = memberKey owner name ∧ '.' ∉ name.toList := by
  rw [Text.cutLast?_eq_some, ← String.toList_inj, toList_memberKey]

/-- A key is read exactly where it is that of a constructor, or that of a method and of no
constructor. -/
theorem parse_eq_ok : parse key = .ok member ↔ ReadFrom key member := by
  constructor
  · intro read
    rw [parse] at read
    split at read
    · cases read
    · rename_i letters nonempty ends
      cases read
      rw [← String.toList_ofList (l := letters)] at ends
      rw [beforeEnd?_eq_some.1 ends]
      exact .constructor fun empty => nonempty (String.ofList_eq_empty_iff.1 empty)
    · rename_i method
      split at read
      · cases read
      · rename_i before after cut
        split at read
        · cases read
        · rename_i sides
          cases read
          rw [← String.toList_ofList (l := before), ← String.toList_ofList (l := after)] at cut
          rcases cutLast?_eq_some.1 cut with ⟨rfl, dotFree⟩
          simp only [Bool.or_eq_true, List.isEmpty_iff, not_or] at sides
          refine .staticMethod ?_ ?_ dotFree ?_
          · exact fun empty => sides.1 (String.ofList_eq_empty_iff.1 empty)
          · exact fun empty => sides.2 (String.ofList_eq_empty_iff.1 empty)
          · intro other same
            rw [beforeEnd?_eq_some.2 same] at method
            cases method
  · rintro (@⟨owner, owned⟩ | @⟨owner, name, owned, named, dotFree, apart⟩)
    · rw [parse, beforeEnd?_eq_some.2 rfl]
      cases letters : owner.toList with
      | nil => exact absurd (String.toList_eq_nil_iff.1 letters) owned
      | cons first rest =>
          have whole : String.ofList (first :: rest) = owner := letters ▸ String.ofList_toList
          simp only [whole]
    · have method : Text.beforeEnd? constructorEnding (memberKey owner name).toList = none := by
        refine Option.eq_none_iff_forall_ne_some.2 fun front ends => ?_
        rw [← String.toList_ofList (l := front)] at ends
        exact apart _ (beforeEnd?_eq_some.1 ends)
      rw [parse, method, cutLast?_eq_some.2 ⟨rfl, dotFree⟩]
      simp [owned, named]

/-! ## Reading back -/

/-- A method whose name has no dot shares its key with no constructor, unless its owner ends in a
dot. -/
theorem memberKey_ne_constructorKey
    (closed : ∀ front, owner.toList ≠ front ++ ['.'])
    (dotFree : '.' ∉ name.toList)
    (other : String) :
    memberKey owner name ≠ memberKey other constructorName := by
  intro same
  have cut : Text.cutLast? '.' (memberKey owner name).toList =
      some (owner.toList, name.toList) :=
    cutLast?_eq_some.2 ⟨rfl, dotFree⟩
  -- The key would be cut at the second dot of the ending, with a dot before it.
  have ended : (memberKey owner name).toList =
      (other.toList ++ ['.']) ++ '.' :: ['c', 't', 'o', 'r'] := by
    rw [same, toList_constructorKey, constructorEnding]
    simp
  rw [Text.cutLast?_eq_some.2 ⟨ended, by decide⟩] at cut
  exact closed _ (congrArg Prod.fst (Option.some.inj cut)).symm

/-- The key of a method that has a name without a dot reads back as the method, unless its owner
is empty or ends in a dot. -/
theorem parse_memberKey
    (owned : owner ≠ "")
    (closed : ∀ front, owner.toList ≠ front ++ ['.'])
    (named : name ≠ "")
    (dotFree : '.' ∉ name.toList) :
    parse (memberKey owner name) = .ok ⟨owner, name, .staticMethod⟩ :=
  parse_eq_ok.2 (.staticMethod owned named dotFree (memberKey_ne_constructorKey closed dotFree))

/-- The key of a constructor reads back as the constructor of its owner. -/
theorem parse_constructorKey (owned : owner ≠ "") :
    parse (memberKey owner constructorName) = .ok ⟨owner, constructorName, .constructor⟩ :=
  parse_eq_ok.2 (.constructor owned)

/--
A member that keys can name: its name is that of constructors, or a name without
dots beside an owner that does not end in one.
-/
def IsNameable (owner name : String) : Prop :=
  name = constructorName ∨
    name ≠ "" ∧ '.' ∉ name.toList ∧ owner.toList.getLast? ≠ some '.'

instance (owner name : String) : Decidable (IsNameable owner name) :=
  inferInstanceAs (Decidable (_ ∨ _))

theorem forall_ne_concat
    (closed : owner.toList.getLast? ≠ some '.')
    (front : List Char) :
    owner.toList ≠ front ++ ['.'] := by
  intro ended
  rw [ended, List.getLast?_concat] at closed
  exact closed rfl

/-- The key of a nameable member reads back as the member. -/
theorem parse_memberKey_eq_ok
    (owned : owner ≠ "")
    (nameable : IsNameable owner name) :
    ∃ kind, parse (memberKey owner name) = .ok ⟨owner, name, kind⟩ := by
  rcases nameable with rfl | ⟨named, dotFree, closed⟩
  · exact ⟨_, parse_constructorKey owned⟩
  · exact ⟨_, parse_memberKey owned (forall_ne_concat closed) named dotFree⟩

/-- Whatever is read from the key of a constructor is a member of its owner, and so it is for a
method whose name has no dot, unless its owner ends in one. -/
theorem owner_of_parse_memberKey
    (plain : name = constructorName ∨ '.' ∉ name.toList ∧ owner.toList.getLast? ≠ some '.')
    (read : parse (memberKey owner name) = .ok member) :
    member.owner = owner := by
  generalize same : memberKey owner name = key at read
  rcases parse_eq_ok.1 read with @⟨other, -⟩ | @⟨other, otherName, -, -, otherFree, apart⟩
  · rcases plain with rfl | ⟨dotFree, closed⟩
    · have front := beforeEnd?_eq_some.2 same.symm
      rw [beforeEnd?_eq_some.2 rfl] at front
      exact String.toList_inj.1 (Option.some.inj front)
    · exact absurd same (memberKey_ne_constructorKey (forall_ne_concat closed) dotFree other)
  · rcases plain with rfl | ⟨dotFree, -⟩
    · exact absurd same.symm (apart owner)
    · have cut := cutLast?_eq_some.2 ⟨same.symm, dotFree⟩
      rw [cutLast?_eq_some.2 ⟨rfl, otherFree⟩] at cut
      exact String.toList_inj.1 (congrArg Prod.fst (Option.some.inj cut))

theorem ReadFrom.key_eq (read : ReadFrom key member) : member.key = key := by
  cases read <;> rfl

theorem ReadFrom.kind_iff (read : ReadFrom key member) :
    member.kind = .constructor ↔ member.name = constructorName := by
  cases read with
  | constructor => exact iff_of_true rfl rfl
  | @staticMethod owner name owned named dotFree =>
      refine iff_of_false nofun fun (same : name = constructorName) => ?_
      rw [same] at dotFree
      exact absurd dotFree (by decide)

theorem ReadFrom.named_of_ne
    (read : ReadFrom key member)
    (method : member.name ≠ constructorName) :
    member.name ≠ "" ∧ '.' ∉ member.name.toList := by
  cases read with
  | constructor => exact absurd rfl method
  | staticMethod owned named dotFree => exact ⟨named, dotFree⟩

/--
Keys are read in one way.  A key can be read where it ends like that of a
constructor behind an owner, or where it does not and has something on both
sides of its last dot.  What is read has that key again, and the kind tells by
the name.  In return the key of a nameable member is read as this member, so no
two of them share a key.
-/
theorem keys_read_uniquely :
    (∀ key, (∃ member, parse key = .ok member) ↔
      (∃ owner, owner ≠ "" ∧ key = owner ++ "..ctor") ∨
      (∀ owner, key ≠ owner ++ "..ctor") ∧
        ∃ owner name, owner ≠ "" ∧ name ≠ "" ∧ '.' ∉ name.toList ∧
          key = owner ++ "." ++ name) ∧
    (∀ key member, parse key = .ok member →
      member.key = key ∧
      (member.kind = .constructor ↔ member.name = ".ctor") ∧
      (member.name ≠ ".ctor" → member.name ≠ "" ∧ '.' ∉ member.name.toList)) ∧
    (∀ owner name, owner ≠ "" → IsNameable owner name →
      ∃ member, parse (memberKey owner name) = .ok member ∧
        member.owner = owner ∧ member.name = name) ∧
    ∀ owner name other otherName, owner ≠ "" → IsNameable owner name →
      other ≠ "" → IsNameable other otherName →
      memberKey owner name = memberKey other otherName → owner = other ∧ name = otherName := by
  refine ⟨?_, ?_, ?_, ?_⟩
  · intro key
    simp only [parse_eq_ok, ← constructorKey_eq]
    constructor
    · rintro ⟨member, owned | ⟨owned, named, dotFree, apart⟩⟩
      · exact Or.inl ⟨_, owned, rfl⟩
      · exact Or.inr ⟨apart, _, _, owned, named, dotFree, rfl⟩
    · rintro (⟨owner, owned, rfl⟩ | ⟨apart, owner, name, owned, named, dotFree, rfl⟩)
      · exact ⟨_, .constructor owned⟩
      · exact ⟨_, .staticMethod owned named dotFree apart⟩
  · intro key member read
    have readFrom := parse_eq_ok.1 read
    exact ⟨readFrom.key_eq, readFrom.kind_iff, readFrom.named_of_ne⟩
  · intro owner name owned nameable
    rcases parse_memberKey_eq_ok owned nameable with ⟨kind, read⟩
    exact ⟨_, read, rfl, rfl⟩
  · intro owner name other otherName owned nameable otherOwned otherNameable same
    rcases parse_memberKey_eq_ok owned nameable with ⟨kind, read⟩
    rcases parse_memberKey_eq_ok otherOwned otherNameable with ⟨otherKind, otherRead⟩
    rw [same, otherRead] at read
    cases read
    exact ⟨rfl, rfl⟩

/-- A method called `ctor` is not taken for a constructor, and dots before the ending of
constructors are taken for an owner. -/
theorem keys_read_uniquely_manyDots :
    (∃ member, parse (memberKey "Sample.Counter" "ctor") = .ok member ∧
      member.owner = "Sample.Counter" ∧ member.name = "ctor") ∧
    memberKey "Sample.Counter" "ctor" ≠ memberKey "Sample.Counter" ".ctor" ∧
    ∃ member, parse "....ctor" = .ok member := by
  rcases keys_read_uniquely with ⟨readable, -, reads, unique⟩
  refine ⟨reads _ _ (by decide) (by decide), ?_, ?_⟩
  · intro same
    exact absurd (unique _ _ _ _ (by decide) (by decide) (by decide) (by decide) same).2
      (by decide)
  · exact (readable _).2 (Or.inl ⟨"..", by decide⟩)

end Member

end WinrtLint
