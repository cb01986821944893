import Mathlib.Data.List.TakeWhile
import WinrtLint.Proofs.Text.Cuts
import WinrtLint.Source.DottedName

/-!
# Plain names and their spellings

The characters of a plain name are dots and characters of identifiers, so a
plain name spells itself (`ofText?_of_isDotted`), and its first identifier can
be read off any of its spellings (`head_eq_leading`).  The mark of a name that
is meant from the top may stand in front of it, with blanks anywhere in
between (`FromTop.ofText?_eq`); in front of a receiver it is recognised only
where no blank stands inside it (`beginsGlobal_iff`).
-/

namespace WinrtLint.Source.DottedName

theorem isDotted_append (before after : List Char) :
    isDotted (before ++ '.' :: after) = (isDotted before && isDotted after) := by
  rw [isDotted, Text.pieces_append, List.all_append]
  rfl

theorem ofText?_eq_some {text name : String} :
    ofText? text = some name ↔
      withoutGlobalMark (significant text.toList) = name.toList ∧
        isDotted name.toList = true := by
  rw [ofText?]
  constructor
  · intro spelled
    split at spelled
    · rename_i dotted
      cases spelled
      exact ⟨by simp, by simpa using dotted⟩
    · cases spelled
  · rintro ⟨same, dotted⟩
    rw [same, if_pos dotted, String.ofList_toList]

theorem isDotted_of_ofText?
    {text name : String}
    (spelled : ofText? text = some name) :
    isDotted name.toList = true :=
  (ofText?_eq_some.1 spelled).2

/-! ## The characters of a plain name -/

theorem isContinuation_of_isIdentifier
    {text : List Char}
    (identifier : isIdentifier text = true)
    {char : Char}
    (member : char ∈ text) :
    isContinuation char = true := by
  cases text with
  | nil => cases member
  | cons first rest =>
      rw [isIdentifier, Bool.and_eq_true, List.all_eq_true] at identifier
      rcases List.mem_cons.1 member with rfl | later
      · rw [isContinuation, identifier.1, Bool.true_or]
      · exact identifier.2 char later

theorem dot_not_mem_of_isIdentifier
    {text : List Char}
    (identifier : isIdentifier text = true) :
    '.' ∉ text := by
  intro dot
  exact absurd (isContinuation_of_isIdentifier identifier dot) (by decide)

theorem isDotted_of_isIdentifier
    {text : List Char}
    (identifier : isIdentifier text = true) :
    isDotted text = true := by
  rw [isDotted, Text.pieces_of_not_mem (dot_not_mem_of_isIdentifier identifier), List.all_cons,
    identifier]
  rfl

/-- A single identifier is its own head, and nothing comes behind it. -/
theorem split_of_isIdentifier
    {name : String}
    (identifier : isIdentifier name.toList = true) :
    split name = (name, none) := by
  have dotFree := dot_not_mem_of_isIdentifier identifier
  have whole : name.toList.takeWhile (· ≠ '.') = name.toList := by
    apply List.takeWhile_eq_self_iff.2
    intro char member
    have notDot : char ≠ '.' := fun isDot => dotFree (isDot ▸ member)
    simpa using notDot
  simp only [split, Text.cutFirst_fst, whole, Text.cutFirst_snd_eq_none.2 dotFree,
    String.ofList_toList, Option.map_none]

theorem eq_dot_or_isContinuation
    {text : List Char}
    (dotted : isDotted text = true)
    {char : Char}
    (member : char ∈ text) :
    char = '.' ∨ isContinuation char = true := by
  rcases Text.eq_mark_or_mem_pieces member with isDot | ⟨piece, among, inside⟩
  · exact Or.inl isDot
  · rw [isDotted, List.all_eq_true] at dotted
    exact Or.inr (isContinuation_of_isIdentifier (dotted piece among) inside)

theorem toNat_of_isContinuation
    {char : Char}
    (continues : isContinuation char = true) :
    48 ≤ char.toNat ∧ char.toNat ≤ 122 := by
  simp only [isContinuation, isStart, Bool.or_eq_true, Bool.and_eq_true, decide_eq_true_eq,
    Char.le_def, UInt32.le_iff_toNat_le] at continues
  rcases continues with ((upper | lower) | rfl) | digit
  · change 65 ≤ char.toNat ∧ char.toNat ≤ 90 at upper
    omega
  · change 97 ≤ char.toNat ∧ char.toNat ≤ 122 at lower
    omega
  · decide
  · change 48 ≤ char.toNat ∧ char.toNat ≤ 57 at digit
    omega

/-- A plain name has no blanks, verbatim marks or colons. -/
theorem not_mark_of_isDotted
    {text : List Char}
    (dotted : isDotted text = true)
    {char : Char}
    (member : char ∈ text) :
    Text.isBlank char = false ∧ char ≠ '@' ∧ char ≠ ':' := by
  rcases eq_dot_or_isContinuation dotted member with rfl | continues
  · decide
  · refine ⟨?_, ?_, ?_⟩
    · have bounds := toNat_of_isContinuation continues
      simp [Text.isBlank, Text.inRanges, Text.blankRanges]
      omega
    · rintro rfl
      exact absurd continues (by decide)
    · rintro rfl
      exact absurd continues (by decide)

theorem significant_of_isDotted
    {text : List Char}
    (dotted : isDotted text = true) :
    significant text = text := by
  apply List.filter_eq_self.2
  intro char member
  rcases not_mark_of_isDotted dotted member with ⟨notBlank, notVerbatim, -⟩
  simp [notBlank, notVerbatim]

theorem withoutGlobalMark_of_isDotted
    {text : List Char}
    (dotted : isDotted text = true) :
    withoutGlobalMark text = text := by
  have unmarked : Text.afterStart? globalMark text = none := by
    by_contra marked
    rcases Option.ne_none_iff_exists'.1 marked with ⟨rest, found⟩
    have colon : ':' ∈ text := by
      rw [Text.afterStart?_eq_some.1 found]
      exact List.mem_append_left rest (by decide)
    exact (not_mark_of_isDotted dotted colon).2.2 rfl
  rw [withoutGlobalMark, unmarked, Option.getD_none]

/-- A plain name spells itself. -/
theorem ofText?_of_isDotted
    {name : String}
    (dotted : isDotted name.toList = true) :
    ofText? name = some name := by
  apply ofText?_eq_some.2
  rw [significant_of_isDotted dotted, withoutGlobalMark_of_isDotted dotted]
  exact ⟨rfl, dotted⟩

/-! ## The first identifier -/

/-- The identifier with which a text begins, when blanks, verbatim marks and the mark of a name
meant from the top are left aside. -/
def leading (text : String) : String :=
  String.ofList ((withoutGlobalMark (significant text.toList)).takeWhile isContinuation)

theorem takeWhile_isContinuation
    {text : List Char}
    (dotted : isDotted text = true) :
    text.takeWhile isContinuation = text.takeWhile (· ≠ '.') := by
  have agree : ∀ char ∈ text, isContinuation char = decide (char ≠ '.') := by
    intro char member
    rcases eq_dot_or_isContinuation dotted member with rfl | continues
    · decide
    · have notDot : char ≠ '.' := by
        rintro rfl
        exact absurd continues (by decide)
      rw [continues, decide_eq_true notDot]
  clear dotted
  induction text with
  | nil => rfl
  | cons char rest induction =>
      rw [List.takeWhile_cons, List.takeWhile_cons, agree char List.mem_cons_self,
        induction fun other member => agree other (List.mem_cons_of_mem _ member)]

theorem head_eq_leading
    {text name : String}
    (spelled : ofText? text = some name) :
    head name = leading text := by
  rcases ofText?_eq_some.1 spelled with ⟨same, dotted⟩
  rw [leading, same, takeWhile_isContinuation dotted, ← Text.cutFirst_fst]
  rfl

theorem head_ne_empty
    {text name : String}
    (spelled : ofText? text = some name) :
    head name ≠ "" := by
  have dotted := isDotted_of_ofText? spelled
  intro empty
  have noHead : name.toList.takeWhile (· ≠ '.') = [] := by
    rw [← Text.cutFirst_fst]
    exact String.ofList_eq_empty_iff.1 empty
  cases characters : name.toList with
  | nil =>
      rw [characters] at dotted
      cases dotted
  | cons first rest =>
      rw [characters, List.takeWhile_cons] at noHead
      split at noHead
      · cases noHead
      · rename_i isDot
        have starts : first = '.' := by simpa using isDot
        rw [characters, starts, ← List.nil_append ('.' :: rest), isDotted_append] at dotted
        cases dotted

/-! ## Names meant from the top -/

/-- A text is a name behind the mark of a name meant from the top, with blanks anywhere. -/
def FromTop (text name : String) : Prop :=
  text.toList.filter (fun char => !Text.isBlank char) = globalMark ++ name.toList

instance (text name : String) : Decidable (FromTop text name) :=
  inferInstanceAs (Decidable (_ = _))

/-- A text that spells a plain name from the top spells the name, the mark being dropped. -/
theorem FromTop.ofText?_eq
    {text name : String}
    (marked : FromTop text name)
    (dotted : isDotted name.toList = true) :
    ofText? text = some name := by
  have bare : significant text.toList = globalMark ++ name.toList := by
    calc significant text.toList
        = significant (text.toList.filter fun char => !Text.isBlank char) := by
          rw [significant, significant, List.filter_filter]
          apply List.filter_congr
          intro char _
          cases Text.isBlank char <;> simp
      _ = globalMark ++ significant name.toList := by
          rw [marked, significant, List.filter_append]
          rfl
      _ = globalMark ++ name.toList := by rw [significant_of_isDotted dotted]
  apply ofText?_eq_some.2
  rw [bare, withoutGlobalMark, Text.afterStart?_eq_some.2 rfl]
  exact ⟨rfl, dotted⟩

/-- A text begins, behind blanks, with the mark of a name meant from the top, and no blank stands
inside the mark. -/
def Unbroken (text : String) : Prop :=
  ∃ blanks rest, text.toList = blanks ++ (globalMark ++ rest) ∧
    ∀ char ∈ blanks, Text.isBlank char = true

theorem beginsGlobal_iff {text : String} :
    beginsGlobal text = true ↔ Unbroken text := by
  rw [beginsGlobal, Option.isSome_iff_exists]
  constructor
  · rintro ⟨rest, found⟩
    refine ⟨text.toList.takeWhile Text.isBlank, rest, ?_, fun char => List.mem_takeWhile_imp⟩
    rw [← Text.afterStart?_eq_some.1 found, List.takeWhile_append_dropWhile]
  · rintro ⟨blanks, rest, sides, blank⟩
    refine ⟨rest, Text.afterStart?_eq_some.2 ?_⟩
    rw [sides, List.dropWhile_append_of_pos blank]
    rfl

end WinrtLint.Source.DottedName
