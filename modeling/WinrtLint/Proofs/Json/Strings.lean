import WinrtLint.Json.Reader
import WinrtLint.Json.Writer

/-!
# Reading back JSON strings

A string is read back as it was written, whatever follows it
(`takeString_chars`).  Every character is written in a way that the reader
undoes (`takeString?_writeChar`): as a short escape, as itself, with the four
digits of its code point, or with those of the two halves of its surrogate
pair.  What is written is printable ASCII, whatever the characters are
(`isPrintable_writeChar`).
-/

namespace WinrtLint.Json

/-! ## Code units -/

theorem hexDigit?_digitChar : ∀ digit < 16, hexDigit? digit.digitChar = some digit := by
  decide

/-- The last digit stands behind the digits of the sixteenth. -/
theorem digits_succ {width : Nat} (positive : 0 < width) (value : Nat) :
    (Text.Hex.digits (width + 1) value).toList =
      (Text.Hex.digits width (value / 16)).toList ++ [(value % 16).digitChar] := by
  simp only [Text.Hex.digits, String.toList_ofList]
  by_cases small : value < 16
  · rw [Nat.toDigits_of_lt_base small, Nat.div_eq_of_lt small, Nat.mod_eq_of_lt small,
      Nat.toDigits_zero, ← List.replicate_succ', List.length_singleton, List.length_singleton,
      Nat.add_sub_cancel, Nat.sub_add_cancel positive]
  · rw [Nat.toDigits_of_base_le (by decide) (Nat.not_lt.1 small), List.length_append,
      List.length_singleton, Nat.add_sub_add_right, List.append_assoc]

theorem unitEscape_eq {unit : Nat} (small : unit < 0x10000) :
    unitEscape unit =
      ['\\', 'u', (unit / 4096).digitChar, (unit / 256 % 16).digitChar,
        (unit / 16 % 16).digitChar, (unit % 16).digitChar] := by
  have first : (Text.Hex.digits 1 (unit / 4096)).toList = [(unit / 4096).digitChar] := by
    rw [Text.Hex.digits, Nat.toDigits_of_lt_base (by omega), String.toList_ofList]
    rfl
  rw [unitEscape, digits_succ (by decide), digits_succ (by decide), digits_succ (by decide)]
  simp only [Nat.div_div_eq_div_mul, first]
  rfl

theorem codeUnit?_digits {unit : Nat} (small : unit < 0x10000) :
    codeUnit? (unit / 4096).digitChar (unit / 256 % 16).digitChar
      (unit / 16 % 16).digitChar (unit % 16).digitChar = some unit := by
  rw [codeUnit?, hexDigit?_digitChar _ (by omega), hexDigit?_digitChar _ (by omega),
    hexDigit?_digitChar _ (by omega), hexDigit?_digitChar _ (by omega)]
  simp only [Option.bind_eq_bind, Option.bind_some, Option.pure_def, Option.some.injEq]
  omega

/-! ## Printable characters -/

/-- Whether a character is one of printable ASCII. -/
def IsPrintable (char : Char) : Prop :=
  0x20 ≤ char.toNat ∧ char.toNat < 0x7F

instance (char : Char) : Decidable (IsPrintable char) :=
  inferInstanceAs (Decidable (_ ∧ _))

theorem isPrintable_digitChar : ∀ digit < 16, IsPrintable digit.digitChar := by
  decide

theorem isPrintable_unitEscape {unit : Nat} (small : unit < 0x10000) :
    ∀ char ∈ unitEscape unit, IsPrintable char := by
  rw [unitEscape_eq small]
  simp only [List.forall_mem_cons, List.not_mem_nil, false_imp_iff, implies_true, and_true]
  exact ⟨by decide, by decide, isPrintable_digitChar _ (by omega),
    isPrintable_digitChar _ (by omega), isPrintable_digitChar _ (by omega),
    isPrintable_digitChar _ (by omega)⟩

/-! ## Characters -/

/-- A string with one more code point in front. -/
def withPoint (point : Nat) : List Nat × List Char → List Nat × List Char :=
  fun (text, rest) => (point :: text, rest)

theorem takeString?_unitEscape
    {unit : Nat}
    (small : unit < 0x10000)
    (alone : isHighHalf unit = false)
    (rest : List Char) :
    takeString? none (unitEscape unit ++ rest) =
      (takeString? none rest).map (withPoint unit) := by
  rw [unitEscape_eq small]
  simp only [List.cons_append, List.nil_append, takeString?, codeUnit?_digits small,
    Option.bind_eq_bind, Option.bind_some, alone]
  cases takeString? none rest <;> rfl

/-- The first half of a surrogate pair waits for the second one. -/
theorem takeString?_pair
    {high low : Nat}
    (isHigh : isHighHalf high = true)
    (isLow : isLowHalf low = true)
    (rest : List Char) :
    takeString? none (unitEscape high ++ (unitEscape low ++ rest)) =
      (takeString? none rest).map (withPoint (pairPoint high low)) := by
  have smallHigh : high < 0x10000 := by
    simp only [isHighHalf, Bool.and_eq_true, decide_eq_true_eq] at isHigh
    omega
  have smallLow : low < 0x10000 := by
    simp only [isLowHalf, Bool.and_eq_true, decide_eq_true_eq] at isLow
    omega
  rw [unitEscape_eq smallHigh, unitEscape_eq smallLow]
  simp only [List.cons_append, List.nil_append, takeString?, codeUnit?_digits smallHigh,
    codeUnit?_digits smallLow, Option.bind_eq_bind, Option.bind_some, isHigh, isLow]
  cases takeString? none rest <;> rfl

theorem pairPoint_halves (offset : Nat) :
    pairPoint (0xD800 + offset / 0x400) (0xDC00 + offset % 0x400) = 0x10000 + offset := by
  have first : 0xD800 + offset / 0x400 - 0xD800 = offset / 0x400 :=
    Nat.add_sub_cancel_left ..
  have second : 0xDC00 + offset % 0x400 - 0xDC00 = offset % 0x400 :=
    Nat.add_sub_cancel_left ..
  unfold pairPoint
  rw [first, second]
  omega

/-- A character that is neither special nor a control character stands for itself. -/
theorem takeString?_self
    {char : Char}
    (noQuote : char ≠ '"')
    (noEscape : char ≠ '\\')
    (noControl : 0x20 ≤ char.toNat)
    (rest : List Char) :
    takeString? none (char :: rest) =
      (takeString? none rest).map (withPoint char.toNat) := by
  have plain : (decide (char = '\\') || decide (char.toNat < 0x20)) = false := by
    simp [noEscape, noControl]
  rw [takeString?]
  · rw [if_neg noQuote, plain]
    cases takeString? none rest <;> rfl
  · rintro _ _ _ _ _ rfl
    exact absurd rfl noEscape
  · rintro _ _ rfl
    exact absurd rfl noEscape

theorem toNat_lt (char : Char) : char.toNat < 0x110000 := by
  have valid : char.toNat < 0xD800 ∨ 0xDFFF < char.toNat ∧ char.toNat < 0x110000 :=
    char.valid
  omega

theorem not_isHalf_toNat (char : Char) : isHalf char.toNat = false := by
  have valid : char.toNat < 0xD800 ∨ 0xDFFF < char.toNat ∧ char.toNat < 0x110000 :=
    char.valid
  simp only [isHalf, isHighHalf, isLowHalf, Bool.or_eq_false_iff, Bool.and_eq_false_iff,
    decide_eq_false_iff_not]
  omega

/-- A letter behind a backslash stands for its character, unless it announces a code unit. -/
theorem takeString?_shortEscape
    {letter char : Char}
    (known : escape? letter = some char)
    (noUnit : letter ≠ 'u')
    (rest : List Char) :
    takeString? none ('\\' :: letter :: rest) =
      (takeString? none rest).map (withPoint char.toNat) := by
  rw [takeString?]
  · rw [known, Option.bind_eq_bind, Option.bind_some]
    cases takeString? none rest <;> rfl
  · rintro first second third fourth tail same
    exact absurd same noUnit

/-- The ways in which a character is written. -/
theorem writeChar_cases (char : Char) :
    (∃ letter, writeChar char = ['\\', letter] ∧ escape? letter = some char ∧
      letter ≠ 'u' ∧ IsPrintable letter) ∨
    (writeChar char = [char] ∧ char ≠ '"' ∧ char ≠ '\\' ∧ IsPrintable char) ∨
    (writeChar char = unitEscape char.toNat ∧ char.toNat < 0x10000) ∨
    (∃ offset, writeChar char =
        unitEscape (0xD800 + offset / 0x400) ++ unitEscape (0xDC00 + offset % 0x400) ∧
      0x10000 + offset = char.toNat) := by
  by_cases short : char ∈ ['"', '\\', '\n', '\r', '\t', '\x08', '\x0c']
  · left
    simp only [List.mem_cons, List.not_mem_nil, or_false] at short
    rcases short with rfl | rfl | rfl | rfl | rfl | rfl | rfl <;>
      exact ⟨_, rfl, rfl, by decide, by decide⟩
  · right
    simp only [List.mem_cons, List.not_mem_nil, or_false, not_or] at short
    rcases short with ⟨quote, escape, feed, carriage, tab, back, form⟩
    rw [writeChar, if_neg quote, if_neg escape, if_neg feed, if_neg carriage, if_neg tab,
      if_neg back, if_neg form]
    by_cases printable : IsPrintable char
    · left
      rw [if_pos (by simpa [IsPrintable] using printable)]
      exact ⟨rfl, quote, escape, printable⟩
    · right
      rw [if_neg (by simpa [IsPrintable] using printable)]
      by_cases single : char.toNat < 0x10000
      · exact Or.inl ⟨if_pos single, single⟩
      · exact Or.inr ⟨_, if_neg single, Nat.add_sub_cancel' (Nat.not_lt.1 single)⟩

/-- What is written for a character is read as that character, whatever follows. -/
theorem takeString?_writeChar (char : Char) (rest : List Char) :
    takeString? none (writeChar char ++ rest) =
      (takeString? none rest).map (withPoint char.toNat) := by
  rcases writeChar_cases char with ⟨letter, written, known, noUnit, -⟩ |
    ⟨written, noQuote, noEscape, printable⟩ | ⟨written, small⟩ | ⟨offset, written, point⟩
  · rw [written]
    exact takeString?_shortEscape known noUnit rest
  · rw [written]
    exact takeString?_self noQuote noEscape printable.1 rest
  · have alone : isHighHalf char.toNat = false := by
      have whole := not_isHalf_toNat char
      rw [isHalf, Bool.or_eq_false_iff] at whole
      exact whole.1
    rw [written]
    exact takeString?_unitEscape small alone rest
  · have bound : char.toNat < 0x110000 := toNat_lt char
    -- The offset has twenty bits, ten for each half of the pair.
    have isHigh : isHighHalf (0xD800 + offset / 0x400) = true := by
      simp only [isHighHalf, Bool.and_eq_true, decide_eq_true_eq]
      omega
    have isLow : isLowHalf (0xDC00 + offset % 0x400) = true := by
      simp only [isLowHalf, Bool.and_eq_true, decide_eq_true_eq]
      omega
    rw [written, List.append_assoc, takeString?_pair isHigh isLow rest, pairPoint_halves, point]

/-- Whatever the character, it is written in printable ASCII. -/
theorem isPrintable_writeChar (char : Char) :
    ∀ written ∈ writeChar char, IsPrintable written := by
  rcases writeChar_cases char with ⟨letter, written, -, -, printable⟩ |
    ⟨written, -, -, printable⟩ | ⟨written, small⟩ | ⟨offset, written, point⟩
  · rw [written, List.forall_mem_cons, List.forall_mem_singleton]
    exact ⟨by decide, printable⟩
  · rw [written, List.forall_mem_singleton]
    exact printable
  · rw [written]
    exact isPrintable_unitEscape small
  · have bound : char.toNat < 0x110000 := toNat_lt char
    rw [written]
    exact List.forall_mem_append.2
      ⟨isPrintable_unitEscape (by omega), isPrintable_unitEscape (by omega)⟩

/-! ## Strings -/

theorem writeString_whole (text : String) :
    writeString (.whole text) = '"' :: (text.toList.flatMap writeChar ++ ['"']) := by
  have point : ∀ char : Char, writePoint char.toNat = writeChar char := by
    intro char
    rw [writePoint, not_isHalf_toNat, Char.ofNat_toNat]
    rfl
  simp only [writeString, LooseText.points, List.flatMap_map, point]
  rfl

theorem takeString?_chars (chars rest : List Char) :
    takeString? none (chars.flatMap writeChar ++ '"' :: rest) =
      some (chars.map Char.toNat, rest) := by
  induction chars with
  | nil => rfl
  | cons char chars induction =>
      rw [List.flatMap_cons, List.append_assoc, takeString?_writeChar, induction]
      rfl

theorem ofPoints_toNat (text : String) :
    LooseText.ofPoints (text.toList.map Char.toNat) = .whole text := by
  have whole : (text.toList.map Char.toNat).any isHalf = false := by
    simp [not_isHalf_toNat]
  rw [LooseText.ofPoints, whole, List.map_map]
  simp [Function.comp_def]

/-- What is written for a string is read as that string, whatever follows. -/
theorem takeString_chars (text : String) (rest : List Char) :
    takeString (text.toList.flatMap writeChar ++ '"' :: rest) = .ok (.whole text, rest) := by
  rw [takeString, takeString?_chars]
  dsimp only
  rw [ofPoints_toNat]

end WinrtLint.Json
