import Mathlib.Data.List.TakeWhile
import WinrtLint.Json.Reader
import WinrtLint.Proofs.Text.Cuts

/-!
# The limits of the JSON reader

A JSON document may be turned down for what the reader cannot hold: an integer
of too many digits, or too many arrays and objects within each other.  It is
turned down for this only where the text shows it, with as many digits behind
each other or with more opening brackets than that (`showsIn_of_read`).

A reader takes something from the front of a text and leaves the end.  Its
outcome is justified by the text if what is left is an end of it and a limit
shows in it (`Justified`); this passes from the parts of a reader to the whole
(`Justified.bind`), and behind an opening bracket there is one array or object
fewer to open (`Justified.opened`).
-/

namespace WinrtLint.Json

variable {Result Other : Type} {depth : Nat} {text part rest : List Char}

/-- Whether a character opens an array or an object. -/
def isOpening (char : Char) : Bool :=
  char = '[' || char = '\x7b'

/-- How many brackets open in a text. -/
def openings (text : List Char) : Nat :=
  text.countP isOpening

theorem openings_cons {bracket : Char} (opens : isOpening bracket = true) :
    openings (bracket :: text) = openings text + 1 :=
  List.countP_cons_of_pos opens

theorem openings_pos {bracket : Char} (opens : isOpening bracket = true) :
    0 < openings (bracket :: text) := by
  rw [openings_cons opens]
  exact Nat.succ_pos _

/-- A text has as many digits behind each other. -/
def HasRun (digits : Nat) (text : List Char) : Prop :=
  ∃ run : List Char, run.length = digits ∧ (∀ char ∈ run, char.isDigit = true) ∧ run <:+: text

theorem HasRun.mono
    {digits : Nat}
    (ends : part <:+ text)
    (has : HasRun digits part) :
    HasRun digits text := by
  rcases has with ⟨run, length, digits, inside⟩
  exact ⟨run, length, digits, inside.trans ends.isInfix⟩

/-- A limit that a reader meets shows in the text that it reads, where it may open `depth` arrays
and objects within each other. -/
def ReadFault.ShowsIn (depth : Nat) (text : List Char) : ReadFault → Prop
  | .malformed => True
  | .integerTooLong digits => longestInteger < digits ∧ HasRun digits text
  | .nestedTooDeep => depth < openings text

/-- What a reader makes of a text is justified by the text. -/
def Justified (depth : Nat) (text : List Char) :
    Except ReadFault (Result × List Char) → Prop
  | .ok (_, rest) => rest <:+ text
  | .error fault => fault.ShowsIn depth text

theorem ReadFault.ShowsIn.mono
    {fault : ReadFault}
    (ends : part <:+ text)
    (shows : fault.ShowsIn depth part) :
    fault.ShowsIn depth text := by
  cases fault with
  | malformed => trivial
  | integerTooLong digits => exact ⟨shows.1, shows.2.mono ends⟩
  | nestedTooDeep => exact Nat.lt_of_lt_of_le shows ends.sublist.countP_le

theorem ReadFault.ShowsIn.opened
    {fault : ReadFault}
    {bracket : Char}
    (opens : isOpening bracket = true)
    (shows : fault.ShowsIn depth text) :
    fault.ShowsIn (depth + 1) (bracket :: text) := by
  cases fault with
  | malformed => trivial
  | integerTooLong digits => exact ⟨shows.1, shows.2.mono (List.suffix_cons _ _)⟩
  | nestedTooDeep =>
      rw [ShowsIn, openings_cons opens]
      exact Nat.succ_lt_succ shows

namespace Justified

variable {outcome : Except ReadFault (Result × List Char)}

theorem mono (ends : part <:+ text) (justified : Justified depth part outcome) :
    Justified depth text outcome := by
  match outcome, justified with
  | .ok _, left => exact left.trans ends
  | .error _, shows => exact ReadFault.ShowsIn.mono ends shows

/-- Behind a bracket that opens, one fewer may be opened. -/
theorem opened
    {bracket : Char}
    (opens : isOpening bracket = true)
    (justified : Justified depth text outcome) :
    Justified (depth + 1) (bracket :: text) outcome := by
  match outcome, justified with
  | .ok _, left => exact left.trans (List.suffix_cons _ _)
  | .error _, shows => exact ReadFault.ShowsIn.opened opens shows

/-- A reader that goes on behind another one. -/
theorem bind
    {next : Result × List Char → Except ReadFault (Other × List Char)}
    (first : Justified depth text outcome)
    (later : ∀ result rest, rest <:+ text → Justified depth rest (next (result, rest))) :
    Justified depth text (outcome >>= next) := by
  match outcome, first with
  | .ok (result, rest), left => exact (later result rest left).mono left
  | .error _, shows => exact shows

end Justified

/-! ## Strings and numbers -/

theorem skipGap_suffix (text : List Char) : skipGap text <:+ text :=
  List.dropWhile_suffix _

/-- A string that is read on and put behind something leaves what is read on leaves. -/
theorem suffix_of_bind
    {taken : Option (List Nat × List Char)}
    {points : List Nat}
    {next : List Nat × List Char → Option (List Nat × List Char)}
    (ends : ∀ {rest points}, taken = some (points, rest) → rest <:+ text)
    (grown : taken >>= next = some (points, rest))
    (leaves : ∀ found, (next found).map (·.2) = some found.2) :
    rest <:+ text := by
  rcases Option.bind_eq_some_iff.1 grown with ⟨found, took, result⟩
  have same := leaves found
  rw [result] at same
  cases same
  exact ends took

theorem takeString?_suffix
    {half : Option Nat}
    {points : List Nat}
    (taken : takeString? half text = some (points, rest)) :
    rest <:+ text := by
  fun_induction takeString? half text generalizing points rest with
  | case1 half => cases taken
  | case2 half first second third fourth after later waiting =>
      rcases Option.bind_eq_some_iff.1 taken with ⟨unit, -, taken⟩
      have ends : rest <:+ after := by
        repeat' split at taken
        · exact suffix_of_bind later taken fun _ => rfl
        · exact suffix_of_bind (waiting unit) taken fun _ => rfl
        · exact suffix_of_bind later taken fun _ => rfl
        · exact waiting unit taken
        · exact suffix_of_bind later taken fun _ => rfl
      exact ends.trans ⟨['\\', 'u', first, second, third, fourth], rfl⟩
  | case3 half letter after other later =>
      rcases Option.bind_eq_some_iff.1 taken with ⟨char, -, taken⟩
      exact (suffix_of_bind later taken fun _ => rfl).trans ⟨['\\', letter], rfl⟩
  | case4 half after =>
      cases taken
      exact List.suffix_cons _ _
  | case5 => cases taken
  | case6 half char after _ _ noQuote plain later =>
      exact (suffix_of_bind later taken fun _ => rfl).trans (List.suffix_cons _ _)

theorem justified_takeString (depth : Nat) (text : List Char) :
    Justified depth text (takeString text) := by
  rw [takeString]
  split
  · trivial
  · rename_i points rest taken
    exact takeString?_suffix taken

theorem takeWhole?_eq_some
    {whole : List Char}
    (taken : takeWhole? text = some (whole, rest)) :
    whole ++ rest = text ∧ ∀ char ∈ whole, char.isDigit = true := by
  rw [takeWhole?.eq_def] at taken
  split at taken
  · cases taken
    exact ⟨rfl, by simp⟩
  · dsimp only at taken
    split at taken
    · cases taken
    · cases taken
      exact ⟨List.takeWhile_append_dropWhile, fun _ => List.mem_takeWhile_imp⟩

theorem takeFraction_suffix (text : List Char) :
    (takeFraction text).2 <:+ text := by
  rw [takeFraction.eq_def]
  split
  · dsimp only
    split
    · exact List.suffix_rfl
    · exact (List.dropWhile_suffix _).trans (List.suffix_cons _ _)
  · exact List.suffix_rfl

theorem takeExponent_suffix (text : List Char) :
    (takeExponent text).2 <:+ text := by
  cases text with
  | nil => exact List.suffix_rfl
  | cons mark after =>
      -- The digits begin behind the mark, or behind a sign.
      have behind : ∀ negative digitsOn, digitsOn <:+ mark :: after →
          (if (digitsOn.takeWhile Char.isDigit).isEmpty then (none, mark :: after)
            else (some (Number.exponentOf negative (digitsOn.takeWhile Char.isDigit)),
              digitsOn.dropWhile Char.isDigit)).2 <:+ mark :: after := by
        intro negative digitsOn ends
        split
        · exact List.suffix_rfl
        · exact (List.dropWhile_suffix _).trans ends
      dsimp only [takeExponent]
      split
      · split
        · exact behind _ _ ⟨[mark, '+'], rfl⟩
        · exact behind _ _ ⟨[mark, '-'], rfl⟩
        · exact behind _ _ ⟨[mark], rfl⟩
      · exact List.suffix_rfl

theorem justified_takeNumber (depth : Nat) (text : List Char) :
    Justified depth text (takeNumber text) := by
  dsimp only [takeNumber]
  split
  · trivial
  · rename_i whole rest found
    rcases takeWhole?_eq_some found with ⟨inside, digits⟩
    have ends : whole ++ rest <:+ text := by
      rw [inside]
      split
      · exact List.suffix_cons _ _
      · exact List.suffix_rfl
    have left : (takeExponent (takeFraction rest).2).2 <:+ text :=
      ((takeExponent_suffix _).trans (takeFraction_suffix rest)).trans
        ((List.suffix_append _ _).trans ends)
    split
    · split
      · rename_i long
        exact ⟨long, whole, rfl, digits, (List.prefix_append _ _).isInfix.trans ends.isInfix⟩
      · exact left
    · exact left

theorem justified_takeScalar (depth : Nat) (text : List Char) :
    Justified depth text (takeScalar text) := by
  rw [takeScalar]
  split
  · rename_i found
    rcases List.exists_of_findSome?_eq_some found with ⟨entry, -, literal⟩
    rcases Option.map_eq_some_iff.1 literal with ⟨rest, after, rfl⟩
    exact ⟨_, (Text.afterStart?_eq_some.1 after).symm⟩
  · have number := justified_takeNumber depth text
    generalize takeNumber text = outcome at number
    match outcome, number with
    | .ok _, left => exact left
    | .error _, shows => exact shows

/-! ## Values with parts -/

/-- What stands behind the character after a gap. -/
theorem suffix_of_skipGap {char : Char} (next : skipGap text = char :: rest) :
    rest <:+ text :=
  (List.suffix_cons char rest).trans (next ▸ skipGap_suffix text)

section

variable {bound : Nat}

theorem justified_takeValue
    (items : ∀ depth text, Justified depth text (takeItems bound depth text))
    (fields : ∀ depth text, Justified depth text (takeFields bound depth text))
    (depth : Nat)
    (text : List Char) :
    Justified depth text (takeValue (bound + 1) depth text) := by
  rw [takeValue.eq_def]
  split
  · trivial
  · refine ((justified_takeString _ _).bind ?_).mono (List.suffix_cons _ _)
    exact fun _ _ _ => List.suffix_rfl
  · exact openings_pos rfl
  · exact openings_pos rfl
  · rename_i same
    cases same
    refine .opened rfl ?_
    split
    · rename_i closed
      exact suffix_of_skipGap closed
    · refine ((items _ _).mono (skipGap_suffix _)).bind ?_
      exact fun _ _ _ => List.suffix_rfl
  · rename_i same
    cases same
    refine .opened rfl ?_
    split
    · rename_i closed
      exact suffix_of_skipGap closed
    · refine ((fields _ _).mono (skipGap_suffix _)).bind ?_
      exact fun _ _ _ => List.suffix_rfl
  · exact justified_takeScalar _ _

theorem justified_takeItems
    (values : ∀ depth text, Justified depth text (takeValue bound depth text))
    (items : ∀ depth text, Justified depth text (takeItems bound depth text))
    (depth : Nat)
    (text : List Char) :
    Justified depth text (takeItems (bound + 1) depth text) := by
  rw [takeItems]
  refine (values depth text).bind fun item rest ends => ?_
  dsimp only
  split
  · rename_i closed
    exact suffix_of_skipGap closed
  · rename_i after comma
    refine .mono (suffix_of_skipGap comma) ?_
    refine ((items _ _).mono (skipGap_suffix after)).bind ?_
    exact fun _ _ _ => List.suffix_rfl
  · trivial

theorem justified_takeFields
    (values : ∀ depth text, Justified depth text (takeValue bound depth text))
    (fields : ∀ depth text, Justified depth text (takeFields bound depth text))
    (depth : Nat)
    (text : List Char) :
    Justified depth text (takeFields (bound + 1) depth text) := by
  rw [takeFields.eq_def]
  split
  · trivial
  · rename_i same
    cases same
    refine ((justified_takeString _ _).bind fun name rest ends => ?_).mono (List.suffix_cons _ _)
    dsimp only
    split
    · rename_i after colon
      refine .mono (suffix_of_skipGap colon) ?_
      refine ((values _ _).mono (skipGap_suffix after)).bind fun value rest ends => ?_
      dsimp only
      split
      · rename_i closed
        exact suffix_of_skipGap closed
      · rename_i after comma
        refine .mono (suffix_of_skipGap comma) ?_
        refine ((fields _ _).mono (skipGap_suffix after)).bind ?_
        exact fun _ _ _ => List.suffix_rfl
      · trivial
    · trivial
  · trivial

/-- What the readers make of a text shows in it, whatever bound they are given. -/
theorem justified_readers (bound : Nat) :
    (∀ depth text, Justified depth text (takeValue bound depth text)) ∧
    (∀ depth text, Justified depth text (takeItems bound depth text)) ∧
    ∀ depth text, Justified depth text (takeFields bound depth text) := by
  induction bound with
  | zero => exact ⟨fun _ _ => trivial, fun _ _ => trivial, fun _ _ => trivial⟩
  | succ bound induction =>
      rcases induction with ⟨values, items, fields⟩
      exact ⟨justified_takeValue items fields, justified_takeItems values items,
        justified_takeFields values fields⟩

end

/-! ## Documents -/

/-- A document meets a limit only where it shows in the document. -/
theorem showsIn_of_read
    {fault : ReadFault}
    (failed : read text = .error fault) :
    fault.ShowsIn deepestNesting text := by
  have value := (justified_readers (text.length + 1)).1 deepestNesting (skipGap text)
  rw [read] at failed
  generalize takeValue (text.length + 1) deepestNesting (skipGap text) = outcome at value failed
  match outcome, value with
  | .error _, shows =>
      cases failed
      exact shows.mono (skipGap_suffix text)
  | .ok (_, rest), _ =>
      dsimp only [bind, Except.bind] at failed
      split at failed
      · cases failed
      · cases failed
        trivial

end WinrtLint.Json
