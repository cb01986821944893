import Mathlib.Data.List.Forall2

/-!
# Lists taken in pairs

Two lists of one length whose elements are related in pairs give equal results
wherever the results of related elements are equal, and related elements where
an element is chosen by a test that related elements pass alike.
-/

namespace WinrtLint.Pairs

variable
    {Element Result : Type}
    {related : Element → Element → Prop}
    {left right : List Element}

theorem forall_left
    {holds : Element → Prop}
    (alike : ∀ first second, related first second → holds first)
    (paired : List.Forall₂ related left right) :
    ∀ element ∈ left, holds element := by
  induction paired with
  | nil => exact fun _ member => absurd member List.not_mem_nil
  | cons pair _ induction => exact List.forall_mem_cons.2 ⟨alike _ _ pair, induction⟩

theorem forall_right
    {holds : Element → Prop}
    (alike : ∀ first second, related first second → holds second)
    (paired : List.Forall₂ related left right) :
    ∀ element ∈ right, holds element :=
  forall_left (fun first second pair => alike second first pair) paired.flip

theorem with_members (paired : List.Forall₂ related left right) :
    List.Forall₂ (fun first second => first ∈ left ∧ second ∈ right ∧ related first second)
      left right := by
  have listed := (List.forall₂_and_left _ _).2 ⟨fun _ member => member, paired.flip⟩
  exact (List.forall₂_and_left _ _).2 ⟨fun _ member => member, listed.flip⟩

theorem map_eq
    {change : Element → Result}
    (alike : ∀ first second, related first second → change first = change second)
    (paired : List.Forall₂ related left right) :
    left.map change = right.map change := by
  have results : List.Forall₂ (· = ·) (left.map change) (right.map change) :=
    List.rel_map (fun _ _ pair => alike _ _ pair) paired
  rwa [List.forall₂_eq_eq_eq] at results

theorem flatMap_eq
    {change : Element → List Result}
    (alike : ∀ first second, related first second → change first = change second)
    (paired : List.Forall₂ related left right) :
    left.flatMap change = right.flatMap change := by
  rw [List.flatMap_def, List.flatMap_def, map_eq alike paired]

theorem filterMap_eq
    {change : Element → Option Result}
    (alike : ∀ first second, related first second → change first = change second)
    (paired : List.Forall₂ related left right) :
    left.filterMap change = right.filterMap change := by
  rw [List.filterMap_eq_flatMap_toList, List.filterMap_eq_flatMap_toList]
  exact flatMap_eq (fun _ _ pair => by rw [alike _ _ pair]) paired

theorem any_eq
    {test : Element → Bool}
    (alike : ∀ first second, related first second → test first = test second)
    (paired : List.Forall₂ related left right) :
    left.any test = right.any test := by
  induction paired with
  | nil => rfl
  | cons pair _ induction => rw [List.any_cons, List.any_cons, alike _ _ pair, induction]

theorem filter
    {test : Element → Bool}
    (alike : ∀ first second, related first second → test first = test second)
    (paired : List.Forall₂ related left right) :
    List.Forall₂ (fun first second => related first second ∧ test first = true)
      (left.filter test) (right.filter test) := by
  induction paired with
  | nil => exact .nil
  | @cons first second left right pair _ induction =>
      rw [List.filter_cons, List.filter_cons, ← alike _ _ pair]
      cases passes : test first with
      | true => exact .cons ⟨pair, passes⟩ induction
      | false => exact induction

theorem takeWhile
    {test : Element → Bool}
    (alike : ∀ first second, related first second → test first = test second)
    (paired : List.Forall₂ related left right) :
    List.Forall₂ related (left.takeWhile test) (right.takeWhile test) := by
  induction paired with
  | nil => exact .nil
  | @cons first second left right pair _ induction =>
      rw [List.takeWhile_cons, List.takeWhile_cons, alike _ _ pair]
      cases test second with
      | true => exact .cons pair induction
      | false => exact .nil

theorem find?
    {test : Element → Bool}
    (alike : ∀ first second, related first second → test first = test second)
    (paired : List.Forall₂ related left right) :
    Option.Rel (fun first second => related first second ∧ test first = true)
      (left.find? test) (right.find? test) := by
  induction paired with
  | nil => exact .none
  | @cons first second left right pair _ induction =>
      rw [List.find?_cons, List.find?_cons, ← alike _ _ pair]
      cases passes : test first with
      | true => exact .some ⟨pair, passes⟩
      | false => exact induction

theorem head? (paired : List.Forall₂ related left right) :
    Option.Rel related left.head? right.head? := by
  cases paired with
  | nil => exact .none
  | cons pair _ => exact .some pair

theorem getLast? (paired : List.Forall₂ related left right) :
    Option.Rel related left.getLast? right.getLast? := by
  rw [← List.head?_reverse, ← List.head?_reverse]
  exact head? (List.rel_reverse paired)

/-! ## Optional elements -/

theorem optionImp
    {other : Element → Element → Prop}
    {first second : Option Element}
    (weaken : ∀ first second, related first second → other first second)
    (pair : Option.Rel related first second) :
    Option.Rel other first second := by
  cases pair with
  | none => exact .none
  | some pair => exact .some (weaken _ _ pair)

theorem optionMap_eq
    {change : Element → Result}
    {first second : Option Element}
    (alike : ∀ first second, related first second → change first = change second)
    (pair : Option.Rel related first second) :
    first.map change = second.map change := by
  cases pair with
  | none => rfl
  | some pair => exact congrArg some (alike _ _ pair)

theorem optionBind_eq
    {change : Element → Option Result}
    {first second : Option Element}
    (alike : ∀ first second, related first second → change first = change second)
    (pair : Option.Rel related first second) :
    first.bind change = second.bind change := by
  cases pair with
  | none => rfl
  | some pair => exact alike _ _ pair

theorem optionOr
    {first second other another : Option Element}
    (pair : Option.Rel related first second)
    (next : Option.Rel related other another) :
    Option.Rel related (first.or other) (second.or another) := by
  cases pair with
  | none => exact next
  | some pair => exact .some pair

end WinrtLint.Pairs
