import WinrtLint.Proofs.Json.Strings
import WinrtLint.Proofs.Outcome
import WinrtLint.Proofs.Text.Lines

/-!
# Reading back JSON values

A value of texts, truth values and nulls, in arrays and objects, is read back
as it was written (`read_write`).  The induction follows the value: the items
of an array and the fields of an object are read one behind another
(`takeItems_written`, `takeFields_written`), and each line that is started
between them is skipped.  A bound on the reader's steps holds as long as it
allows one step for each character that is left.
-/

namespace WinrtLint.Json

open WinrtLint.Outcome

/--
A value of texts, truth values and nulls in arrays and objects, which are
nested at most `depth` deep.  No two fields of an object have the same name.
-/
inductive Textual : Nat → Value → Prop where
  | null {depth : Nat} : Textual depth .null
  | bool {depth : Nat} (value : Bool) : Textual depth (.bool value)
  | text {depth : Nat} (value : String) : Textual depth (.text value)
  | array
      {depth : Nat}
      {items : List Value}
      (each : ∀ item ∈ items, Textual depth item) :
      Textual (depth + 1) (.array items)
  | object
      {depth : Nat}
      {fields : List (LooseText × Value)}
      (named : ∀ field ∈ fields, ∃ name, field.1 = .whole name)
      (distinct : (fields.map Prod.fst).Nodup)
      (each : ∀ field ∈ fields, Textual depth field.2) :
      Textual (depth + 1) (.object fields)

/-! ## Gaps -/

theorem isGap_of_mem_lineStart
    {level : Nat}
    {char : Char}
    (member : char ∈ lineStart level) :
    isGap char = true := by
  rcases List.mem_cons.1 member with rfl | blank
  · rfl
  · rw [List.eq_of_mem_replicate blank]
    rfl

theorem skipGap_cons
    {char : Char}
    (visible : isGap char = false)
    (rest : List Char) :
    skipGap (char :: rest) = char :: rest :=
  List.dropWhile_cons_of_neg (by rw [visible]; exact Bool.false_ne_true)

/-- The start of a line is skipped up to the first character behind it. -/
theorem skipGap_lineStart
    {char : Char}
    (visible : isGap char = false)
    (level : Nat)
    (rest : List Char) :
    skipGap (lineStart level ++ char :: rest) = char :: rest := by
  refine Text.dropWhile_behind (fun blank member => isGap_of_mem_lineStart member) ?_
  rintro first ⟨⟩
  exact visible

/-- What is written for a value begins neither with a gap nor as an array ends. -/
theorem exists_writeAt
    {depth : Nat}
    {value : Value}
    (textual : Textual depth value)
    (level : Nat) :
    ∃ first rest, writeAt level value = first :: rest ∧ isGap first = false ∧ first ≠ ']' := by
  cases textual with
  | null => exact ⟨_, _, rfl, by decide⟩
  | bool value => cases value <;> exact ⟨_, _, rfl, by decide⟩
  | text value => exact ⟨_, _, rfl, by decide⟩
  | @array _ items => cases items <;> exact ⟨_, _, rfl, by decide⟩
  | @object _ fields => cases fields <;> exact ⟨_, _, rfl, by decide⟩

/-- No value is written with nothing, so a bound that suffices allows a step. -/
theorem exists_steps
    {depth level bound : Nat}
    {value : Value}
    (textual : Textual depth value)
    (enough : (writeAt level value).length ≤ bound) :
    ∃ steps, bound = steps + 1 := by
  rcases exists_writeAt textual level with ⟨first, rest, written, -⟩
  rw [written, List.length_cons] at enough
  exact Nat.exists_eq_add_one.2 (Nat.lt_of_lt_of_le (Nat.succ_pos _) enough)

/-! ## Values -/

/-- Whether what is written for a value at any level is read as the value, whatever follows. -/
def ReadsBack (depth : Nat) (value : Value) : Prop :=
  ∀ level bound rest, (writeAt level value).length ≤ bound →
    takeValue bound depth (writeAt level value ++ rest) = .ok (value, rest)

/-- Items that read back are read one behind another, up to the bracket. -/
theorem takeItems_written
    {depth level bound : Nat}
    {item : Value}
    {items : List Value}
    (textual : ∀ other ∈ items, Textual depth other)
    (each : ∀ other ∈ item :: items, ReadsBack depth other)
    (enough : (writeAt level item).length + (writeItems level items).length < bound)
    (outer : Nat)
    (rest : List Char) :
    takeItems bound depth
        (writeAt level item ++ (writeItems level items ++ (lineStart outer ++ ']' :: rest))) =
      .ok (item :: items, rest) := by
  induction items generalizing item bound with
  | nil =>
      cases bound with
      | zero => omega
      | succ bound =>
          rw [takeItems, each item List.mem_cons_self level bound _ (by omega), ok_bind]
          dsimp only
          rw [writeItems, List.nil_append, skipGap_lineStart (by decide)]
          rfl
  | cons next items induction =>
      cases bound with
      | zero => omega
      | succ bound =>
          rw [List.forall_mem_cons] at textual each
          rcases exists_writeAt textual.1 level with ⟨first, others, written, visible, -⟩
          have skipped : ∀ tail, skipGap (lineStart level ++ (writeAt level next ++ tail)) =
              writeAt level next ++ tail := by
            intro tail
            rw [written]
            exact skipGap_lineStart visible level (others ++ tail)
          have fits : (writeAt level next).length + (writeItems level items).length < bound := by
            simp only [writeItems, List.length_cons, List.length_append] at enough
            omega
          have later := induction textual.2 each.2 fits
          rw [takeItems, each.1 level bound _ (by omega), ok_bind]
          simp only [writeItems, List.cons_append, List.append_assoc]
          rw [skipGap_cons (by decide)]
          simp only [skipped, later, ok_bind]
          rfl

/-- A field is read in front of the brace, or of a comma and further fields. -/
theorem takeFields_field
    {depth level bound : Nat}
    {value : Value}
    {fields : List (LooseText × Value)}
    {tail rest : List Char}
    (name : String)
    (textual : Textual depth value)
    (reads : ReadsBack depth value)
    (enough : (writeAt level value).length ≤ bound)
    (behind : skipGap tail = '\x7d' :: rest ∧ fields = [] ∨
      ∃ more, skipGap tail = ',' :: more ∧
        takeFields bound depth (skipGap more) = .ok (fields, rest)) :
    takeFields (bound + 1) depth
        (writeString (.whole name) ++ ':' :: ' ' :: (writeAt level value ++ tail)) =
      .ok ((.whole name, value) :: fields, rest) := by
  rcases exists_writeAt textual level with ⟨first, others, written, visible, -⟩
  have skipped : skipGap (' ' :: (writeAt level value ++ tail)) =
      writeAt level value ++ tail := by
    rw [written]
    exact skipGap_cons visible (others ++ tail)
  rw [writeString_whole, List.cons_append, List.append_assoc, List.singleton_append, takeFields,
    takeString_chars, ok_bind]
  dsimp only
  rw [skipGap_cons (by decide)]
  simp only [skipped, reads level bound tail enough, ok_bind]
  rcases behind with ⟨closed, rfl⟩ | ⟨more, comma, later⟩
  · rw [closed]
    rfl
  · simp only [comma, later, ok_bind]
    rfl

theorem takeFields_written
    {depth level bound : Nat}
    {field : LooseText × Value}
    {fields : List (LooseText × Value)}
    (named : ∀ other ∈ field :: fields, ∃ name, other.1 = .whole name)
    (textual : ∀ other ∈ field :: fields, Textual depth other.2)
    (each : ∀ other ∈ field :: fields, ReadsBack depth other.2)
    (enough : (writeAt level field.2).length + (writeFields level fields).length < bound)
    (outer : Nat)
    (rest : List Char) :
    takeFields bound depth
        (writeString field.1 ++ ':' :: ' ' :: (writeAt level field.2 ++
          (writeFields level fields ++ (lineStart outer ++ '\x7d' :: rest)))) =
      .ok (field :: fields, rest) := by
  induction fields generalizing field bound with
  | nil =>
      rcases field with ⟨name, value⟩
      rcases named _ List.mem_cons_self with ⟨letters, rfl⟩
      cases bound with
      | zero => omega
      | succ bound =>
          refine takeFields_field letters (textual _ List.mem_cons_self)
            (each _ List.mem_cons_self) (by omega) (Or.inl ⟨?_, rfl⟩)
          exact skipGap_lineStart (by decide) outer rest
  | cons next fields induction =>
      rcases field with ⟨name, value⟩
      rcases named _ List.mem_cons_self with ⟨letters, rfl⟩
      rw [List.forall_mem_cons] at named textual each
      cases bound with
      | zero => omega
      | succ bound =>
          have fits : (writeAt level next.2).length + (writeFields level fields).length <
              bound := by
            simp only [writeFields, List.length_cons, List.length_append] at enough
            omega
          have later := induction named.2 textual.2 each.2 fits
          rcases next with ⟨name, other⟩
          rcases named.2 _ List.mem_cons_self with ⟨others, rfl⟩
          simp only [writeFields, List.cons_append, List.append_assoc, List.nil_append]
          refine takeFields_field letters textual.1 each.1
            (Nat.le_of_lt_succ (Nat.lt_of_le_of_lt (Nat.le_add_right _ _) enough))
            (Or.inr ⟨_, skipGap_cons (by decide) _, ?_⟩)
          rw [writeString_whole, List.cons_append] at later ⊢
          rw [skipGap_lineStart (by decide)]
          exact later

theorem readsBack_array
    {depth : Nat}
    {items : List Value}
    (textual : ∀ item ∈ items, Textual depth item)
    (each : ∀ item ∈ items, ReadsBack depth item) :
    ReadsBack (depth + 1) (.array items) := by
  intro level bound rest enough
  rcases exists_steps (.array textual) enough with ⟨steps, rfl⟩
  cases items with
  | nil => rfl
  | cons item items =>
      rw [List.forall_mem_cons] at textual
      rcases exists_writeAt textual.1 (level + 1) with ⟨first, others, written, visible, noBracket⟩
      have fits : (writeAt (level + 1) item).length + (writeItems (level + 1) items).length <
          steps := by
        simp only [writeAt, List.length_cons, List.length_append] at enough
        omega
      have taken := takeItems_written textual.2 each fits level rest
      rw [written, List.cons_append] at taken
      simp only [writeAt, written, List.cons_append, List.append_assoc, List.nil_append]
      rw [takeValue, skipGap_lineStart visible]
      -- What is written for the first item is not taken for the end of the array.
      split
      · rename_i tail closed
        exact absurd (List.cons.inj closed).1 noBracket
      · rw [taken]
        rfl

theorem readsBack_object
    {depth : Nat}
    {fields : List (LooseText × Value)}
    (named : ∀ field ∈ fields, ∃ name, field.1 = .whole name)
    (distinct : (fields.map Prod.fst).Nodup)
    (textual : ∀ field ∈ fields, Textual depth field.2)
    (each : ∀ field ∈ fields, ReadsBack depth field.2) :
    ReadsBack (depth + 1) (.object fields) := by
  intro level bound rest enough
  rcases exists_steps (.object named distinct textual) enough with ⟨steps, rfl⟩
  cases fields with
  | nil => rfl
  | cons field fields =>
      rcases field with ⟨name, value⟩
      rcases named _ List.mem_cons_self with ⟨letters, rfl⟩
      have fits : (writeAt (level + 1) value).length + (writeFields (level + 1) fields).length <
          steps := by
        simp only [writeAt, List.length_cons, List.length_append] at enough
        omega
      have taken := takeFields_written named textual each fits level rest
      rw [writeString_whole, List.cons_append, List.append_assoc, List.singleton_append] at taken
      simp only [writeAt, writeString_whole, List.cons_append, List.append_assoc, List.nil_append]
      rw [takeValue, skipGap_lineStart (by decide)]
      split
      · rename_i tail closed
        exact absurd (List.cons.inj closed).1 (by decide)
      · rw [taken, ok_bind]
        dsimp only
        rw [Dictionary.entries_ofList distinct]
        rfl

/-- A value of texts, truth values and nulls is read as it was written. -/
theorem readsBack_of_textual
    {depth : Nat}
    {value : Value}
    (textual : Textual depth value) :
    ReadsBack depth value := by
  induction textual with
  | null =>
      intro level bound rest enough
      rcases exists_steps (@Textual.null 0) enough with ⟨steps, rfl⟩
      rfl
  | bool value =>
      intro level bound rest enough
      rcases exists_steps (@Textual.bool 0 value) enough with ⟨steps, rfl⟩
      cases value <;> rfl
  | text value =>
      intro level bound rest enough
      rcases exists_steps (@Textual.text 0 value) enough with ⟨steps, rfl⟩
      rw [Value.text, writeAt, writeString_whole, List.cons_append, List.append_assoc,
        List.singleton_append, takeValue, takeString_chars]
      rfl
  | array textual each => exact readsBack_array textual each
  | object named distinct textual each => exact readsBack_object named distinct textual each

/-- The text of a value of texts, truth values and nulls is read as that value. -/
theorem read_write {value : Value} (textual : Textual deepestNesting value) :
    read (write value).toList = .ok value := by
  rcases exists_writeAt textual 0 with ⟨first, others, written, visible, -⟩
  have start : skipGap (writeAt 0 value) = writeAt 0 value := by
    rw [written]
    exact skipGap_cons visible others
  have taken := readsBack_of_textual textual 0 ((writeAt 0 value).length + 1) [] (Nat.le_succ _)
  rw [List.append_nil] at taken
  rw [read, write, String.toList_ofList, start, taken]
  rfl

/-! ## Characters of a text -/

/-- Whether a character is one of printable ASCII or ends a line. -/
def IsPlain (char : Char) : Prop :=
  IsPrintable char ∨ char.toNat = 0x0A

instance (char : Char) : Decidable (IsPlain char) :=
  inferInstanceAs (Decidable (_ ∨ _))

theorem isPlain_of_all
    {text : List Char}
    (all : text.all (decide <| IsPlain ·) = true) :
    ∀ char ∈ text, IsPlain char :=
  fun char member => of_decide_eq_true (List.all_eq_true.1 all char member)

theorem isPlain_lineStart (level : Nat) :
    ∀ char ∈ lineStart level, IsPlain char := by
  rw [lineStart, List.forall_mem_cons]
  refine ⟨by decide, ?_⟩
  intro char blank
  rw [List.eq_of_mem_replicate blank]
  decide

theorem isPlain_writeString (text : String) :
    ∀ char ∈ writeString (.whole text), IsPlain char := by
  intro char member
  rw [writeString_whole, List.mem_cons, List.mem_append, List.mem_singleton,
    List.mem_flatMap] at member
  rcases member with rfl | ⟨letter, -, written⟩ | rfl
  · decide
  · exact Or.inl (isPrintable_writeChar letter char written)
  · decide

theorem isPlain_writeItems
    {level : Nat}
    {items : List Value}
    (each : ∀ item ∈ items, ∀ char ∈ writeAt level item, IsPlain char) :
    ∀ char ∈ writeItems level items, IsPlain char := by
  induction items with
  | nil => simp [writeItems]
  | cons item items induction =>
      rw [List.forall_mem_cons] at each
      simp only [writeItems, List.cons_append, List.forall_mem_cons, List.forall_mem_append]
      exact ⟨by decide, ⟨isPlain_lineStart level, each.1⟩, induction each.2⟩

theorem isPlain_writeFields
    {level : Nat}
    {fields : List (LooseText × Value)}
    (named : ∀ field ∈ fields, ∃ name, field.1 = .whole name)
    (each : ∀ field ∈ fields, ∀ char ∈ writeAt level field.2, IsPlain char) :
    ∀ char ∈ writeFields level fields, IsPlain char := by
  induction fields with
  | nil => simp [writeFields]
  | cons field fields induction =>
      rcases field with ⟨name, value⟩
      rcases named _ List.mem_cons_self with ⟨letters, rfl⟩
      rw [List.forall_mem_cons] at named each
      have colon : IsPlain ':' ∧ IsPlain ' ' ∧ ∀ char ∈ [], IsPlain char :=
        ⟨by decide, by decide, List.forall_mem_nil _⟩
      simp only [writeFields, List.cons_append, List.forall_mem_cons, List.forall_mem_append]
      exact ⟨by decide,
        ⟨⟨⟨isPlain_lineStart level, isPlain_writeString letters⟩, colon⟩, each.1⟩,
        induction named.2 each.2⟩

/-- Line feeds apart, a value is written in printable ASCII. -/
theorem isPlain_writeAt
    {depth : Nat}
    {value : Value}
    (textual : Textual depth value)
    (level : Nat) :
    ∀ char ∈ writeAt level value, IsPlain char := by
  induction textual generalizing level with
  | null =>
      rw [writeAt]
      exact isPlain_of_all rfl
  | bool value => cases value <;> (rw [writeAt]; exact isPlain_of_all rfl)
  | text value => exact isPlain_writeString value
  | @array _ items _ each =>
      cases items with
      | nil =>
          rw [writeAt]
          exact isPlain_of_all rfl
      | cons item items =>
          have start := isPlain_lineStart (level + 1)
          have back := isPlain_lineStart level
          have items := isPlain_writeItems fun other member =>
            each other (List.mem_cons_of_mem item member) (level + 1)
          have first := each item List.mem_cons_self (level + 1)
          simp only [writeAt, List.cons_append, List.forall_mem_cons, List.forall_mem_append]
          exact ⟨by decide, ⟨⟨⟨start, first⟩, items⟩, back⟩, by decide, List.forall_mem_nil _⟩
  | @object _ fields named _ _ each =>
      cases fields with
      | nil =>
          rw [writeAt]
          exact isPlain_of_all rfl
      | cons field fields =>
          rcases field with ⟨name, value⟩
          rcases named _ List.mem_cons_self with ⟨letters, rfl⟩
          have start := isPlain_lineStart (level + 1)
          have back := isPlain_lineStart level
          have fields := isPlain_writeFields
            (fun other member => named other (List.mem_cons_of_mem _ member))
            fun other member => each other (List.mem_cons_of_mem _ member) (level + 1)
          have first := each _ List.mem_cons_self (level + 1)
          have colon : IsPlain ':' ∧ IsPlain ' ' ∧ ∀ char ∈ [], IsPlain char :=
            ⟨by decide, by decide, List.forall_mem_nil _⟩
          simp only [writeAt, List.cons_append, List.forall_mem_cons, List.forall_mem_append]
          exact ⟨by decide, ⟨⟨⟨⟨⟨start, isPlain_writeString letters⟩, colon⟩, first⟩, fields⟩,
            back⟩, by decide, List.forall_mem_nil _⟩

/-- The text of a value of texts, truth values and nulls has no carriage return. -/
theorem carriageReturn_not_mem_write
    {depth : Nat}
    {value : Value}
    (textual : Textual depth value) :
    '\r' ∉ (write value).toList := by
  rw [write, String.toList_ofList]
  intro member
  exact absurd (isPlain_writeAt textual 0 '\r' member) (by decide)

end WinrtLint.Json
