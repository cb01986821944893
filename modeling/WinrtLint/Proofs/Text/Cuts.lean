import Mathlib.Data.List.Basic
import WinrtLint.Text.Blank

/-!
# Where a text is cut

A cut at the last occurrence of a mark is told by its two sides: the mark
stands between them and does not occur behind (`cutLast?_eq_some`).  A beginning
or an ending can be taken off exactly when it is there.  The pieces of a text
hold all its characters but the marks (`eq_mark_or_mem_pieces`), and the pieces
of two texts with a mark between them are those of the one and then of the
other (`pieces_append`).  Parts that are joined by a mark which none of them has
are the pieces of their text (`pieces_joinStrings`).
-/

namespace WinrtLint.Text

theorem cutLast?_eq_none {mark : Char} {text : List Char} :
    cutLast? mark text = none ↔ mark ∉ text := by
  fun_induction cutLast? mark text with
  | case1 => simp
  | case2 char rest before after cut induction =>
      rw [cut] at induction
      simpa using fun _ => induction
  | case3 rest cut induction => simp
  | case4 char rest cut different induction =>
      simpa [Ne.symm different] using induction.1 cut

theorem cutLast?_eq_some {mark : Char} {text before after : List Char} :
    cutLast? mark text = some (before, after) ↔
      text = before ++ mark :: after ∧ mark ∉ after := by
  constructor
  · intro found
    fun_induction cutLast? mark text generalizing before with
    | case1 => cases found
    | case2 char rest front back cut induction =>
        cases found
        rcases induction cut with ⟨sides, absent⟩
        exact ⟨congrArg (char :: ·) sides, absent⟩
    | case3 rest cut induction =>
        cases found
        exact ⟨rfl, cutLast?_eq_none.1 cut⟩
    | case4 => cases found
  · rintro ⟨rfl, absent⟩
    induction before with
    | nil => rw [List.nil_append, cutLast?, cutLast?_eq_none.2 absent, if_pos rfl]
    | cons char before induction => rw [List.cons_append, cutLast?, induction]

theorem cutFirst_snd_eq_none {mark : Char} {text : List Char} :
    (cutFirst mark text).2 = none ↔ mark ∉ text := by
  induction text with
  | nil => simp [cutFirst]
  | cons char rest induction =>
      rw [cutFirst]
      by_cases here : char = mark
      · simp [here]
      · simp [here, Ne.symm here, induction]

theorem cutFirst_fst (mark : Char) (text : List Char) :
    (cutFirst mark text).1 = text.takeWhile (· ≠ mark) := by
  induction text with
  | nil => rfl
  | cons char rest induction =>
      rw [cutFirst]
      by_cases here : char = mark
      · simp [here]
      · simp [here, induction]

theorem afterStart?_eq_some {start text rest : List Char} :
    afterStart? start text = some rest ↔ text = start ++ rest := by
  fun_induction afterStart? start text with
  | case1 text => simp
  | case2 => simp
  | case3 first start text induction => simp [induction]
  | case4 first start char text different => simp [Ne.symm different]

theorem beforeEnd?_eq_some {ending text before : List Char} :
    beforeEnd? ending text = some before ↔ text = before ++ ending := by
  rw [beforeEnd?, Option.map_eq_some_iff]
  constructor
  · rintro ⟨rest, found, rfl⟩
    rw [← List.reverse_inj, afterStart?_eq_some.1 found]
    simp
  · rintro rfl
    refine ⟨before.reverse, ?_, List.reverse_reverse before⟩
    rw [afterStart?_eq_some, List.reverse_append]

theorem pieces_ne_nil (mark : Char) (text : List Char) :
    pieces mark text ≠ [] := by
  fun_induction pieces mark text <;> exact List.cons_ne_nil _ _

theorem eq_mark_or_mem_pieces
    {mark char : Char}
    {text : List Char}
    (member : char ∈ text) :
    char = mark ∨ ∃ piece ∈ pieces mark text, char ∈ piece := by
  fun_induction pieces mark text with
  | case1 => cases member
  | case2 rest induction =>
      rcases List.mem_cons.1 member with here | later
      · exact Or.inl here
      · rcases induction later with isMark | ⟨piece, among, inside⟩
        · exact Or.inl isMark
        · exact Or.inr ⟨piece, List.mem_cons_of_mem _ among, inside⟩
  | case3 first rest other none => exact absurd none (pieces_ne_nil mark rest)
  | case4 first rest other piece more cut induction =>
      rcases List.mem_cons.1 member with here | later
      · exact Or.inr ⟨first :: piece, List.mem_cons_self, here ▸ List.mem_cons_self⟩
      · rw [cut] at induction
        rcases induction later with isMark | ⟨found, among, inside⟩
        · exact Or.inl isMark
        · rcases List.mem_cons.1 among with rfl | behind
          · exact Or.inr ⟨first :: found, List.mem_cons_self, List.mem_cons_of_mem _ inside⟩
          · exact Or.inr ⟨found, List.mem_cons_of_mem _ behind, inside⟩

theorem mem_of_mem_pieces
    {mark char : Char}
    {text piece : List Char}
    (among : piece ∈ pieces mark text)
    (inside : char ∈ piece) :
    char ∈ text := by
  fun_induction pieces mark text generalizing piece with
  | case1 =>
      rw [List.mem_singleton.1 among] at inside
      cases inside
  | case2 rest induction =>
      rcases List.mem_cons.1 among with rfl | later
      · cases inside
      · exact List.mem_cons_of_mem _ (induction later inside)
  | case3 first rest other none => exact absurd none (pieces_ne_nil mark rest)
  | case4 first rest other found more cut induction =>
      rw [cut] at induction
      rcases List.mem_cons.1 among with rfl | later
      · rcases List.mem_cons.1 inside with rfl | behind
        · exact List.mem_cons_self
        · exact List.mem_cons_of_mem _ (induction List.mem_cons_self behind)
      · exact List.mem_cons_of_mem _ (induction (List.mem_cons_of_mem _ later) inside)

theorem mem_of_mem_cutFirst
    {mark char : Char}
    {text rest : List Char}
    (cut : (cutFirst mark text).2 = some rest)
    (inside : char ∈ rest) :
    char ∈ text := by
  induction text with
  | nil => cases cut
  | cons first text induction =>
      rw [cutFirst] at cut
      split at cut
      · cases cut
        exact List.mem_cons_of_mem _ inside
      · exact List.mem_cons_of_mem _ (induction cut)

theorem mem_joinStrings
    {separator : String}
    {char : Char}
    {parts : List String}
    (member : char ∈ (joinStrings separator parts).toList) :
    char ∈ separator.toList ∨ ∃ part ∈ parts, char ∈ part.toList := by
  induction parts with
  | nil => cases member
  | cons first parts induction =>
      cases parts with
      | nil => exact Or.inr ⟨first, List.mem_cons_self, member⟩
      | cons next parts =>
          rw [joinStrings_cons_cons, String.toList_append, String.toList_append, List.mem_append,
            List.mem_append] at member
          rcases member with (inFirst | separating) | later
          · exact Or.inr ⟨first, List.mem_cons_self, inFirst⟩
          · exact Or.inl separating
          · rcases induction later with separating | ⟨part, among, inside⟩
            · exact Or.inl separating
            · exact Or.inr ⟨part, List.mem_cons_of_mem _ among, inside⟩

theorem pieces_append (mark : Char) (before after : List Char) :
    pieces mark (before ++ mark :: after) = pieces mark before ++ pieces mark after := by
  induction before with
  | nil => simp [pieces]
  | cons char before induction =>
      rw [List.cons_append, pieces, pieces, induction]
      by_cases here : char = mark
      · simp [here]
      · rw [if_neg here, if_neg here]
        cases parts : pieces mark before with
        | nil => exact absurd parts (pieces_ne_nil mark before)
        | cons piece more => rfl

theorem pieces_of_not_mem
    {mark : Char}
    {text : List Char}
    (absent : mark ∉ text) :
    pieces mark text = [text] := by
  induction text with
  | nil => rfl
  | cons char text induction =>
      rw [List.mem_cons, not_or] at absent
      rw [pieces, if_neg (Ne.symm absent.1), induction absent.2]

/-- Parts without the mark between which they stand are the pieces of their text. -/
theorem pieces_joinStrings
    {mark : Char}
    {first : String}
    {more : List String}
    (absent : ∀ part ∈ first :: more, mark ∉ part.toList) :
    (pieces mark (joinStrings (String.singleton mark) (first :: more)).toList).map String.ofList =
      first :: more := by
  induction more generalizing first with
  | nil =>
      have alone : joinStrings (String.singleton mark) [first] = first := rfl
      rw [alone, pieces_of_not_mem (absent first List.mem_cons_self), List.map_cons, List.map_nil,
        String.ofList_toList]
  | cons next more induction =>
      rcases List.forall_mem_cons.1 absent with ⟨here, later⟩
      have cut : (joinStrings (String.singleton mark) (first :: next :: more)).toList =
          first.toList ++ mark :: (joinStrings (String.singleton mark) (next :: more)).toList := by
        rw [joinStrings_cons_cons, String.toList_append, String.toList_append,
          String.toList_singleton, List.append_assoc, List.singleton_append]
      rw [cut, pieces_append, List.map_append, induction later, pieces_of_not_mem here,
        List.map_cons, List.map_nil, String.ofList_toList, List.singleton_append]

end WinrtLint.Text
