import Mathlib.Data.List.DropRight
import WinrtLint.Text.Lines

/-!
# Lines and their ends

What is left of a text when a class of characters is dropped at both ends has
none of them at its ends (`bare_dropBothWhile`), and from around such a text
nothing more is dropped (`dropBothWhile_around`).  No line of a text has a line
break in it (`not_isLineBreak_of_mem_lines`), and a text without one is a line
of its own where a line feed follows it (`lines_append_lineFeed`).
-/

namespace WinrtLint.Text

/-! ## Ends -/

/-- Whether no character of a class stands at either end of a text. -/
structure Bare (unwanted : Char → Bool) (text : List Char) : Prop where
  front : ∀ char, text.head? = some char → unwanted char = false
  back : ∀ char, text.getLast? = some char → unwanted char = false

theorem bare_between
    {unwanted : Char → Bool}
    {first last : Char}
    (atFront : unwanted first = false)
    (atBack : unwanted last = false)
    (text : List Char) :
    Bare unwanted (first :: (text ++ [last])) where
  front char isFirst := by
    cases isFirst
    exact atFront
  back char isLast := by
    rw [← List.cons_append, List.getLast?_concat] at isLast
    cases isLast
    exact atBack

theorem dropWhile_behind
    {unwanted : Char → Bool}
    {before text : List Char}
    (dropped : ∀ char ∈ before, unwanted char = true)
    (kept : ∀ char, text.head? = some char → unwanted char = false) :
    (before ++ text).dropWhile unwanted = text := by
  rw [List.dropWhile_append_of_pos dropped]
  cases text with
  | nil => rfl
  | cons first rest => exact List.dropWhile_cons_of_neg (by simp [kept first rfl])

theorem dropEndWhile_before
    {unwanted : Char → Bool}
    {text behind : List Char}
    (dropped : ∀ char ∈ behind, unwanted char = true)
    (kept : ∀ char, text.getLast? = some char → unwanted char = false) :
    dropEndWhile unwanted (text ++ behind) = text := by
  rw [dropEndWhile, List.reverse_append, dropWhile_behind, List.reverse_reverse]
  · simpa using dropped
  · simpa using kept

/-- From around a bare text the unwanted characters are dropped, and nothing of the text. -/
theorem dropBothWhile_around
    {unwanted : Char → Bool}
    {before text behind : List Char}
    (droppedBefore : ∀ char ∈ before, unwanted char = true)
    (droppedBehind : ∀ char ∈ behind, unwanted char = true)
    (bare : Bare unwanted text) :
    dropBothWhile unwanted (before ++ (text ++ behind)) = text := by
  rw [dropBothWhile]
  cases text with
  | nil =>
      -- Nothing is kept, so what stands behind is already dropped from the front.
      have all : ∀ char ∈ before ++ behind, unwanted char = true :=
        List.forall_mem_append.2 ⟨droppedBefore, droppedBehind⟩
      rw [List.nil_append, List.dropWhile_eq_nil_iff.2 all]
      rfl
  | cons first rest =>
      rw [dropWhile_behind droppedBefore, dropEndWhile_before droppedBehind bare.back]
      exact fun char first => bare.front char first

theorem dropBothWhile_eq_self
    {unwanted : Char → Bool}
    {text : List Char}
    (bare : Bare unwanted text) :
    dropBothWhile unwanted text = text := by
  have none : ∀ char ∈ ([] : List Char), unwanted char = true := by simp
  simpa using dropBothWhile_around none none bare

theorem isInfix_dropBothWhile (unwanted : Char → Bool) (text : List Char) :
    dropBothWhile unwanted text <:+: text :=
  (List.rdropWhile_prefix unwanted (text.dropWhile unwanted)).isInfix.trans
    (List.dropWhile_suffix unwanted).isInfix

/-- What is left has none of the unwanted characters at its ends. -/
theorem bare_dropBothWhile (unwanted : Char → Bool) (text : List Char) :
    Bare unwanted (dropBothWhile unwanted text) where
  front char first := by
    have start : (text.dropWhile unwanted).head? = some char := by
      rcases List.rdropWhile_prefix unwanted (text.dropWhile unwanted) with ⟨rest, whole⟩
      rw [← whole, List.head?_append]
      exact Option.or_eq_some_iff.2 (Or.inl first)
    have stopped := List.head?_dropWhile_not unwanted text
    rwa [start] at stopped
  back char last := by
    rw [dropBothWhile, dropEndWhile, List.getLast?_reverse] at last
    have stopped := List.head?_dropWhile_not unwanted (text.dropWhile unwanted).reverse
    rwa [last] at stopped

/-! ## Line feeds -/

theorem unifyLineFeeds_eq_self {text : List Char} (free : '\r' ∉ text) :
    unifyLineFeeds text = text := by
  fun_induction unifyLineFeeds text with
  | case1 => rfl
  | case2 rest induction => exact absurd List.mem_cons_self free
  | case3 char rest other induction =>
      rw [List.mem_cons, not_or] at free
      rw [if_neg (Ne.symm free.1), induction free.2]

/-! ## Lines -/

theorem isLineBreak_carriageReturn : isLineBreak '\r' = true :=
  rfl

theorem linesFrom_cons
    {char : Char}
    (unbroken : isLineBreak char = false)
    (current rest : List Char) :
    linesFrom current (char :: rest) = linesFrom (char :: current) rest := by
  have notReturn : ∀ tail, char = '\r' → rest = '\n' :: tail → False := by
    rintro tail rfl -
    rw [isLineBreak_carriageReturn] at unbroken
    cases unbroken
  rw [linesFrom.eq_3 _ _ _ notReturn, unbroken]
  rfl

theorem linesFrom_append_lineFeed
    {line : List Char}
    (unbroken : ∀ char ∈ line, isLineBreak char = false)
    (current rest : List Char) :
    linesFrom current (line ++ '\n' :: rest) = (current.reverse ++ line) :: lines rest := by
  induction line generalizing current with
  | nil =>
      rw [List.append_nil]
      rfl
  | cons char line induction =>
      rw [List.forall_mem_cons] at unbroken
      rw [List.cons_append, linesFrom_cons unbroken.1, induction unbroken.2, List.reverse_cons,
        List.append_assoc, List.singleton_append]

/-- A text without a line break is the first line where a line feed follows it. -/
theorem lines_append_lineFeed
    {line : List Char}
    (unbroken : ∀ char ∈ line, isLineBreak char = false)
    (rest : List Char) :
    lines (line ++ '\n' :: rest) = line :: lines rest :=
  linesFrom_append_lineFeed unbroken [] rest

theorem not_isLineBreak_of_mem_linesFrom
    {current text line : List Char}
    (unbroken : ∀ char ∈ current, isLineBreak char = false)
    (among : line ∈ linesFrom current text) :
    ∀ char ∈ line, isLineBreak char = false := by
  have first : ∀ char ∈ current.reverse, isLineBreak char = false := by
    simpa using unbroken
  fun_induction linesFrom current text with
  | case1 => cases among
  | case2 current nonempty =>
      rw [List.mem_singleton.1 among]
      exact first
  | case3 current rest induction =>
      rcases List.mem_cons.1 among with rfl | later
      · exact first
      · exact induction (by simp) later (by simp)
  | case4 current char rest other breaks induction =>
      rcases List.mem_cons.1 among with rfl | later
      · exact first
      · exact induction (by simp) later (by simp)
  | case5 current char rest other continues induction =>
      have longer : ∀ letter ∈ char :: current, isLineBreak letter = false :=
        List.forall_mem_cons.2 ⟨Bool.eq_false_iff.2 continues, unbroken⟩
      exact induction longer among fun letter member => longer letter (List.mem_reverse.1 member)

/-- No line has a line break in it. -/
theorem not_isLineBreak_of_mem_lines
    {text line : List Char}
    (among : line ∈ lines text) :
    ∀ char ∈ line, isLineBreak char = false :=
  not_isLineBreak_of_mem_linesFrom (by simp) among

end WinrtLint.Text
