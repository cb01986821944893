import Mathlib.Computability.RegularExpressions
import WinrtLint.Proofs.Source.Names
import WinrtLint.Proofs.Text.Utf8

/-!
# Which texts spell plain names

A letter or underscore and then letters, underscores and digits make an
identifier, and a non-empty list of identifiers with dots between them makes a
plain name.  The test for plain names decides just that (`isDotted_iff_plain`),
and so does a regular expression (`plain_iff_matches`).  To look for the end of
a line instead of the end of the text would accept no more, since no line feed
is left when the blanks are gone (`endsLine_iff`).
-/

namespace WinrtLint.Source.DottedName

/-! ## Character classes -/

/-- The characters from one to another. -/
def charsBetween (first last : Char) : List Char :=
  (List.range' first.toNat (last.toNat + 1 - first.toNat)).map Char.ofNat

/-- Code points below the surrogates are characters, so a range of them has no gaps. -/
theorem mem_charsBetween {first last char : Char} (low : last.toNat < 0xD800) :
    char ∈ charsBetween first last ↔ first ≤ char ∧ char ≤ last := by
  simp only [charsBetween, List.mem_map, List.mem_range'_1, Char.le_def, UInt32.le_iff_toNat_le]
  constructor
  · rintro ⟨value, ⟨least, greatest⟩, rfl⟩
    have same : (Char.ofNat value).toNat = value :=
      Text.Utf8.toNat_ofNat_of_isValidChar (Or.inl (by omega))
    change first.toNat ≤ (Char.ofNat value).toNat ∧ (Char.ofNat value).toNat ≤ last.toNat
    omega
  · rintro ⟨least, greatest⟩
    change first.toNat ≤ char.toNat at least
    change char.toNat ≤ last.toNat at greatest
    exact ⟨char.toNat, by omega, Char.ofNat_toNat char⟩

/-- Letters and the underscore. -/
def letters : List Char :=
  charsBetween 'A' 'Z' ++ charsBetween 'a' 'z' ++ ['_']

/-- Letters, the underscore and digits. -/
def lettersAndDigits : List Char :=
  letters ++ charsBetween '0' '9'

theorem mem_letters {char : Char} : char ∈ letters ↔ isStart char = true := by
  simp [letters, isStart, mem_charsBetween, or_assoc]

theorem mem_lettersAndDigits {char : Char} :
    char ∈ lettersAndDigits ↔ isContinuation char = true := by
  rw [lettersAndDigits, List.mem_append, mem_letters, mem_charsBetween (by decide)]
  simp [isContinuation]

/-! ## The regular expressions -/

/-- A single character out of a list. -/
def oneOf (chars : List Char) : RegularExpression Char :=
  chars.foldr (fun char others => .char char + others) 0

theorem mem_oneOf {chars text : List Char} :
    text ∈ (oneOf chars).matches' ↔ ∃ char ∈ chars, text = [char] := by
  induction chars with
  | nil => simp [oneOf]
  | cons char chars induction =>
      have unfolded : oneOf (char :: chars) = .char char + oneOf chars := rfl
      rw [unfolded, RegularExpression.matches'_add, RegularExpression.matches'_char,
        Language.mem_add, induction, List.exists_mem_cons_iff]
      exact Iff.rfl

theorem mem_star_oneOf {chars text : List Char} :
    text ∈ (oneOf chars).star.matches' ↔ ∀ char ∈ text, char ∈ chars := by
  rw [RegularExpression.matches'_star, Language.mem_kstar]
  constructor
  · rintro ⟨parts, rfl, each⟩ char member
    rcases List.mem_flatten.1 member with ⟨part, among, inside⟩
    rcases mem_oneOf.1 (each part among) with ⟨only, listed, rfl⟩
    rwa [List.mem_singleton.1 inside]
  · intro each
    refine ⟨text.map fun char => [char], ?_, ?_⟩
    · rw [← List.flatMap_def, List.flatMap_singleton']
    · intro part among
      rcases List.mem_map.1 among with ⟨char, member, rfl⟩
      exact mem_oneOf.2 ⟨char, each char member, rfl⟩

/-- The expression `[A-Za-z_][A-Za-z0-9_]*`. -/
def identifier : RegularExpression Char :=
  oneOf letters * (oneOf lettersAndDigits).star

theorem mem_identifier {text : List Char} :
    text ∈ identifier.matches' ↔ isIdentifier text = true := by
  rw [identifier, RegularExpression.matches'_mul, Language.mem_mul]
  constructor
  · rintro ⟨start, isFirst, rest, others, rfl⟩
    rcases mem_oneOf.1 isFirst with ⟨first, starts, rfl⟩
    rw [List.singleton_append, isIdentifier, mem_letters.1 starts, Bool.true_and, List.all_eq_true]
    intro char member
    exact mem_lettersAndDigits.1 (mem_star_oneOf.1 others char member)
  · cases text with
    | nil =>
        intro empty
        exact absurd empty (by decide)
    | cons first rest =>
        rw [isIdentifier, Bool.and_eq_true, List.all_eq_true]
        rintro ⟨starts, others⟩
        refine ⟨[first], mem_oneOf.2 ⟨first, mem_letters.2 starts, rfl⟩, rest, ?_, rfl⟩
        exact mem_star_oneOf.2 fun char member => mem_lettersAndDigits.2 (others char member)

/-- The expression for an identifier and then any number of further ones, each behind a dot. -/
def dottedName : RegularExpression Char :=
  identifier * (.char '.' * identifier).star

/-! ## Names as lists of identifiers -/

/-- A text consists of identifiers, at least one, with dots between them. -/
def Plain (text : List Char) : Prop :=
  ∃ segments : List (List Char), segments ≠ [] ∧
    (∀ segment ∈ segments, segment ∈ identifier.matches') ∧ text = ['.'].intercalate segments

theorem intercalate_pieces (mark : Char) (text : List Char) :
    [mark].intercalate (Text.pieces mark text) = text := by
  fun_induction Text.pieces mark text with
  | case1 => rfl
  | case2 rest induction =>
      cases cut : Text.pieces mark rest with
      | nil => exact absurd cut (Text.pieces_ne_nil mark rest)
      | cons piece more =>
          rw [List.intercalate_cons_cons, ← cut, induction]
          rfl
  | case3 first rest other none => exact absurd none (Text.pieces_ne_nil mark rest)
  | case4 first rest other piece more cut induction =>
      rw [cut] at induction
      rw [← induction]
      cases more with
      | nil => simp
      | cons next more => simp [List.intercalate_cons_cons]

theorem isDotted_iff_plain {text : List Char} :
    isDotted text = true ↔ Plain text := by
  constructor
  · intro dotted
    refine ⟨Text.pieces '.' text, Text.pieces_ne_nil '.' text, ?_, (intercalate_pieces ..).symm⟩
    intro segment among
    exact mem_identifier.2 (List.all_eq_true.1 dotted segment among)
  · rintro ⟨segments, nonempty, each, rfl⟩
    induction segments with
    | nil => exact absurd rfl nonempty
    | cons first more induction =>
        rw [List.forall_mem_cons, mem_identifier] at each
        cases more with
        | nil =>
            rw [List.intercalate_singleton]
            exact isDotted_of_isIdentifier each.1
        | cons next more =>
            rw [List.intercalate_cons_cons, List.append_assoc, List.singleton_append,
              isDotted_append, isDotted_of_isIdentifier each.1,
              induction (List.cons_ne_nil next more) each.2]
            rfl

instance (text : List Char) : Decidable (Plain text) :=
  decidable_of_iff (isDotted text = true) isDotted_iff_plain

theorem intercalate_cons
    (mark : List Char)
    (first : List Char)
    (more : List (List Char)) :
    mark.intercalate (first :: more) = first ++ (more.map (mark ++ ·)).flatten := by
  induction more generalizing first with
  | nil => simp
  | cons next more induction => simp [List.intercalate_cons_cons, induction]

/-- The expression for plain names describes the lists of identifiers joined by dots. -/
theorem plain_iff_matches {text : List Char} :
    Plain text ↔ text ∈ dottedName.matches' := by
  rw [dottedName, RegularExpression.matches'_mul, RegularExpression.matches'_star,
    RegularExpression.matches'_mul, RegularExpression.matches'_char, Language.mem_mul]
  constructor
  · rintro ⟨segments, nonempty, each, rfl⟩
    cases segments with
    | nil => exact absurd rfl nonempty
    | cons first more =>
        rw [List.forall_mem_cons] at each
        refine ⟨first, each.1, _, Language.join_mem_kstar ?_, (intercalate_cons ..).symm⟩
        intro part among
        rcases List.mem_map.1 among with ⟨segment, member, rfl⟩
        exact Language.append_mem_mul (Set.mem_singleton _) (each.2 segment member)
  · rintro ⟨first, isFirst, rest, others, rfl⟩
    rcases Language.mem_kstar.1 others with ⟨parts, rfl, each⟩
    have behindDot : ∀ part ∈ parts,
        part.tail ∈ identifier.matches' ∧ ['.'] ++ part.tail = part := by
      intro part among
      rcases Language.mem_mul.1 (each part among) with ⟨dot, rfl, segment, member, rfl⟩
      exact ⟨member, rfl⟩
    refine ⟨first :: parts.map List.tail, List.cons_ne_nil _ _, ?_, ?_⟩
    · rw [List.forall_mem_cons, List.forall_mem_map]
      exact ⟨isFirst, fun part among => (behindDot part among).1⟩
    · have parted : parts.map ((['.'] ++ ·) ∘ List.tail) = parts :=
        (List.map_congr_left fun part among => (behindDot part among).2).trans (List.map_id' parts)
      rw [intercalate_cons, List.map_map, parted]

/-! ## What counts in a text -/

/-- Blanks and verbatim marks do not count in a name. -/
def Ignored (char : Char) : Prop :=
  Text.isBlank char = true ∨ char = '@'

instance (char : Char) : Decidable (Ignored char) :=
  inferInstanceAs (Decidable (_ ∨ _))

/-- The name that a text would spell: the text without ignored characters and without one mark of
a name meant from the top in front of the others. -/
def bare (text : String) : List Char :=
  let counting := text.toList.filter fun char => ¬ Ignored char
  if globalMark <+: counting then counting.drop globalMark.length else counting

theorem significant_eq (text : List Char) :
    significant text = text.filter fun char => ¬ Ignored char := by
  apply List.filter_congr
  intro char _
  by_cases verbatim : char = '@' <;> simp [Ignored, verbatim]

theorem withoutGlobalMark_eq (text : List Char) :
    withoutGlobalMark text =
      if globalMark <+: text then text.drop globalMark.length else text := by
  rw [withoutGlobalMark]
  split
  · rename_i marked
    rcases marked with ⟨rest, rfl⟩
    rw [Text.afterStart?_eq_some.2 rfl, List.drop_left, Option.getD_some]
  · rename_i unmarked
    cases found : Text.afterStart? globalMark text with
    | none => rfl
    | some rest => exact absurd ⟨rest, (Text.afterStart?_eq_some.1 found).symm⟩ unmarked

theorem ofText?_eq (text : String) :
    ofText? text = if Plain (bare text) then some (String.ofList (bare text)) else none := by
  have same : withoutGlobalMark (significant text.toList) = bare text := by
    rw [withoutGlobalMark_eq, significant_eq, bare]
  rw [ofText?, same]
  exact if_congr isDotted_iff_plain rfl rfl

theorem not_ignored_of_mem_bare
    {text : String}
    {char : Char}
    (member : char ∈ bare text) :
    ¬ Ignored char := by
  have counts : char ∈ text.toList.filter fun char => ¬ Ignored char := by
    rw [bare] at member
    split at member
    · exact List.mem_of_mem_drop member
    · exact member
  simpa using (List.mem_filter.1 counts).2

/-- A text up to its end, or up to the line feed at its end, is in the language of an
expression. -/
def EndsLine (expression : RegularExpression Char) (text : List Char) : Prop :=
  text ∈ expression.matches' ∨ ∃ line, text = line ++ ['\n'] ∧ line ∈ expression.matches'

theorem endsLine_iff {expression : RegularExpression Char} {text : String} :
    EndsLine expression (bare text) ↔ bare text ∈ expression.matches' := by
  constructor
  · rintro (whole | ⟨line, ends, -⟩)
    · exact whole
    · have lineFeed : '\n' ∈ bare text := by
        rw [ends]
        exact List.mem_append_right line (List.mem_singleton_self _)
      exact absurd (Or.inl (by decide)) (not_ignored_of_mem_bare lineFeed)
  · exact Or.inl

/-- One text becomes the other when characters of a class are put in and taken out. -/
inductive AlikeBut (passed : Char → Prop) : List Char → List Char → Prop where
  | nil : AlikeBut passed [] []
  | both {left right : List Char} (char : Char) :
      AlikeBut passed left right → AlikeBut passed (char :: left) (char :: right)
  | left {left right : List Char} {char : Char} (pass : passed char) :
      AlikeBut passed left right → AlikeBut passed (char :: left) right
  | right {left right : List Char} {char : Char} (pass : passed char) :
      AlikeBut passed left right → AlikeBut passed left (char :: right)

theorem AlikeBut.append_right
    {passed : Char → Prop}
    {left right front : List Char}
    (pass : ∀ char ∈ front, passed char)
    (alike : AlikeBut passed left right) :
    AlikeBut passed left (front ++ right) := by
  induction front with
  | nil => exact alike
  | cons char front induction =>
      rw [List.forall_mem_cons] at pass
      exact .right pass.1 (induction pass.2)

/-- Texts are alike if the same characters are left when those of the class are dropped. -/
theorem alikeBut_iff
    {passed : Char → Prop}
    [DecidablePred passed]
    {left right : List Char} :
    AlikeBut passed left right ↔
      (left.filter fun char => ¬ passed char) = right.filter fun char => ¬ passed char := by
  constructor
  · intro alike
    induction alike with
    | nil => rfl
    | both char _ induction => rw [List.filter_cons, List.filter_cons, induction]
    | left pass _ induction => rw [List.filter_cons_of_neg (by simpa using pass), induction]
    | right pass _ induction => rw [List.filter_cons_of_neg (by simpa using pass), induction]
  · intro same
    induction left generalizing right with
    | nil =>
        have pass := List.filter_eq_nil_iff.1 same.symm
        rw [← List.append_nil right]
        exact .append_right (by simpa using pass) .nil
    | cons char left induction =>
        by_cases pass : passed char
        · rw [List.filter_cons_of_neg (by simpa using pass)] at same
          exact .left pass (induction same)
        · rw [List.filter_cons_of_pos (by simpa using pass)] at same
          rcases List.filter_eq_cons_iff.1 same.symm with ⟨front, rest, rfl, passes, -, kept⟩
          exact .append_right (by simpa using passes) (.both char (induction kept.symm))

instance
    {passed : Char → Prop}
    [DecidablePred passed]
    (left right : List Char) :
    Decidable (AlikeBut passed left right) :=
  decidable_of_iff _ alikeBut_iff.symm

theorem bare_congr
    {text other : String}
    (alike : AlikeBut Ignored text.toList other.toList) :
    bare text = bare other := by
  rw [bare, bare, alikeBut_iff.1 alike]

/-- A text spells exactly the plain name that is left when ignored characters and one mark in
front are dropped. -/
theorem plain_names_exact (text : String) :
    ofText? text = (if Plain (bare text) then some (String.ofList (bare text)) else none) ∧
      (Plain (bare text) ↔ EndsLine dottedName (bare text)) ∧
      (∀ name, ofText? text = some name → ofText? name = some name) ∧
      ∀ other, AlikeBut Ignored text.toList other.toList → ofText? text = ofText? other := by
  refine ⟨ofText?_eq text, plain_iff_matches.trans endsLine_iff.symm, ?_, ?_⟩
  · intro name spelled
    exact ofText?_of_isDotted (isDotted_of_ofText? spelled)
  · intro other alike
    rw [ofText?_eq, ofText?_eq, bare_congr alike]

/-- A text with blanks and verbatim marks even inside the mark in front. -/
def spacedName : String :=
  "\u2003glob@al: :Sys .\u0085@Clock_2\n"

/-- The mark in front is dropped once. -/
theorem plain_names_exact_spacedName :
    ofText? spacedName = some "Sys.Clock_2" ∧ ofText? "Sys.Clock_2" = some "Sys.Clock_2" ∧
      AlikeBut Ignored spacedName.toList "global::Sys.Clock_2".toList ∧
      ofText? spacedName = ofText? "global::Sys.Clock_2" ∧
      EndsLine dottedName (bare spacedName) ∧ ofText? "global::global::Sys" = none := by
  rcases plain_names_exact spacedName with ⟨spelled, searched, fixed, same⟩
  have plain : Plain (bare spacedName) := by decide +kernel
  have named : ofText? spacedName = some "Sys.Clock_2" := by
    rw [spelled, if_pos plain]
    decide +kernel
  have alike : AlikeBut Ignored spacedName.toList "global::Sys.Clock_2".toList := by
    decide +kernel
  have markedTwice : ¬ Plain (bare "global::global::Sys") := by decide +kernel
  refine ⟨named, fixed _ named, alike, same _ alike, searched.1 plain, ?_⟩
  rw [(plain_names_exact "global::global::Sys").1, if_neg markedTwice]

end WinrtLint.Source.DottedName
