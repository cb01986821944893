import Mathlib.Algebra.Order.Ring.Nat
import WinrtLint.Text.Utf8

/-!
# Reading back UTF-8

The bytes of a text are read as that text (`decodeReplacing_encode`).  The
other way round, bytes that are read as a text of ASCII characters are the
bytes of that text (`encode_of_decodeReplacing`): no ill-formed piece and no
longer sequence passes for an ASCII character.  Strict reading has no such
bound, since the ill-formed pieces that could pass for characters are turned
down: it accepts the bytes of texts and nothing else (`decode?_eq_some_iff`).
-/

namespace WinrtLint.Text.Utf8

/-! ## One character -/

theorem toNat_ofNat_of_lt {value : Nat} (small : value < 256) :
    (UInt8.ofNat value).toNat = value := by
  simp [Nat.mod_eq_of_lt small]

/-- A tail byte of the usual range gives its six bits. -/
theorem takeTails_cons
    {bits low high count value : Nat}
    {rest : List UInt8}
    (small : value < 64)
    (least : low ≤ value + 0x80)
    (greatest : value + 0x80 ≤ high) :
    takeTails bits low high (count + 1) (UInt8.ofNat (value + 0x80) :: rest) =
      takeTails (bits * 64 + value) 0x80 0xBF count rest := by
  have byte : (UInt8.ofNat (value + 0x80)).toNat = value + 0x80 :=
    toNat_ofNat_of_lt (by omega)
  rw [takeTails, byte, if_pos ⟨least, greatest⟩, Nat.add_sub_cancel]

/-- A sequence that begins with a lead byte is one character if all its tails are there. -/
theorem decode_lead
    {first : Nat}
    {rest after : List UInt8}
    {lead : Lead}
    {value : Nat}
    (high : 0x80 ≤ first)
    (small : first < 256)
    (found : lead? first = some lead)
    (tails : takeTails lead.bits lead.low lead.high lead.tails rest = (some value, after)) :
    decode (UInt8.ofNat first :: rest) = some (Char.ofNat value) :: decode after := by
  rw [decode, toNat_ofNat_of_lt small, if_neg (by omega), found]
  simp only [tails, Option.map_some]

theorem decode_two
    {value : Nat}
    (least : 0x7F < value)
    (greatest : value ≤ 0x7FF)
    (rest : List UInt8) :
    decode (UInt8.ofNat (value / 64 % 32 + 0xC0) ::
        UInt8.ofNat (value % 64 + 0x80) :: rest) =
      some (Char.ofNat value) :: decode rest := by
  have lead : lead? (value / 64 % 32 + 0xC0) = some ⟨value / 64, 1, 0x80, 0xBF⟩ := by
    rw [lead?, if_pos (by omega)]
    simp only [Option.some.injEq, Lead.mk.injEq, and_true]
    omega
  apply decode_lead (by omega) (by omega) lead
  dsimp only
  rw [takeTails_cons (by omega) (by omega) (by omega), takeTails]
  congr 2
  omega

/-- The lead byte of three bytes also bounds the first tail, unless it is in the middle. -/
theorem lead?_three
    {high middle : Nat}
    (bound : high < 16)
    (notOverlong : high = 0 → 32 ≤ middle)
    (notSurrogate : high = 13 → middle < 32)
    (small : middle < 64) :
    ∃ low top, lead? (high + 0xE0) = some ⟨high, 2, low, top⟩ ∧
      low ≤ middle + 0x80 ∧ middle + 0x80 ≤ top := by
  rw [lead?, if_neg (by omega)]
  by_cases first : high = 0
  · subst first
    exact ⟨0xA0, 0xBF, rfl, by omega, by omega⟩
  · by_cases surrogate : high = 13
    · subst surrogate
      exact ⟨0x80, 0x9F, rfl, by omega, by omega⟩
    · refine ⟨0x80, 0xBF, ?_, by omega, by omega⟩
      rw [if_neg (by omega), if_neg (by omega), if_pos (by omega), Nat.add_sub_cancel]

theorem decode_three
    {value : Nat}
    (least : 0x7FF < value)
    (greatest : value ≤ 0xFFFF)
    (valid : value < 0xD800 ∨ 0xDFFF < value)
    (rest : List UInt8) :
    decode (UInt8.ofNat (value / 4096 % 16 + 0xE0) ::
        UInt8.ofNat (value / 64 % 64 + 0x80) :: UInt8.ofNat (value % 64 + 0x80) :: rest) =
      some (Char.ofNat value) :: decode rest := by
  have lead := @lead?_three (value / 4096 % 16) (value / 64 % 64) (by omega)
    (by omega) (by omega) (by omega)
  rcases lead with ⟨low, top, found, least, greatest⟩
  apply decode_lead (by omega) (by omega) found
  dsimp only
  rw [takeTails_cons (by omega) least greatest, takeTails_cons (by omega) (by omega) (by omega),
    takeTails]
  congr 2
  omega

theorem lead?_four
    {high middle : Nat}
    (bound : high < 5)
    (notOverlong : high = 0 → 16 ≤ middle)
    (notBeyond : high = 4 → middle < 16)
    (small : middle < 64) :
    ∃ low top, lead? (high + 0xF0) = some ⟨high, 3, low, top⟩ ∧
      low ≤ middle + 0x80 ∧ middle + 0x80 ≤ top := by
  rw [lead?, if_neg (by omega), if_neg (by omega), if_neg (by omega), if_neg (by omega)]
  by_cases first : high = 0
  · subst first
    exact ⟨0x90, 0xBF, rfl, by omega, by omega⟩
  · by_cases last : high = 4
    · subst last
      exact ⟨0x80, 0x8F, rfl, by omega, by omega⟩
    · refine ⟨0x80, 0xBF, ?_, by omega, by omega⟩
      rw [if_neg (by omega), if_pos (by omega), Nat.add_sub_cancel]

theorem decode_four
    {value : Nat}
    (least : 0xFFFF < value)
    (greatest : value < 0x110000)
    (rest : List UInt8) :
    decode (UInt8.ofNat (value / 262144 % 8 + 0xF0) ::
        UInt8.ofNat (value / 4096 % 64 + 0x80) :: UInt8.ofNat (value / 64 % 64 + 0x80) ::
        UInt8.ofNat (value % 64 + 0x80) :: rest) =
      some (Char.ofNat value) :: decode rest := by
  have lead := @lead?_four (value / 262144 % 8) (value / 4096 % 64) (by omega)
    (by omega) (by omega) (by omega)
  rcases lead with ⟨low, top, found, least, greatest⟩
  apply decode_lead (by omega) (by omega) found
  dsimp only
  rw [takeTails_cons (by omega) least greatest, takeTails_cons (by omega) (by omega) (by omega),
    takeTails_cons (by omega) (by omega) (by omega), takeTails]
  congr 2
  omega

theorem encodeChar_eq (char : Char) :
    encodeChar char =
      if char.toNat ≤ 0x7F then [UInt8.ofNat char.toNat]
      else if char.toNat ≤ 0x7FF then
        [UInt8.ofNat (char.toNat / 64 % 32 + 0xC0), UInt8.ofNat (char.toNat % 64 + 0x80)]
      else if char.toNat ≤ 0xFFFF then
        [UInt8.ofNat (char.toNat / 4096 % 16 + 0xE0),
          UInt8.ofNat (char.toNat / 64 % 64 + 0x80), UInt8.ofNat (char.toNat % 64 + 0x80)]
      else
        [UInt8.ofNat (char.toNat / 262144 % 8 + 0xF0),
          UInt8.ofNat (char.toNat / 4096 % 64 + 0x80),
          UInt8.ofNat (char.toNat / 64 % 64 + 0x80), UInt8.ofNat (char.toNat % 64 + 0x80)] :=
  rfl

/-- The bytes of a character are read as that character, whatever follows. -/
theorem decode_encodeChar_append (char : Char) (rest : List UInt8) :
    decode (encodeChar char ++ rest) = some char :: decode rest := by
  have valid : char.toNat < 0xD800 ∨ 0xDFFF < char.toNat ∧ char.toNat < 0x110000 :=
    char.valid
  have back : Char.ofNat char.toNat = char := Char.ofNat_toNat char
  rw [encodeChar_eq]
  generalize char.toNat = value at valid back
  subst back
  split
  · rw [List.singleton_append, decode, toNat_ofNat_of_lt (by omega), if_pos (by omega)]
  · split
    · exact decode_two (by omega) (by omega) rest
    · split
      · exact decode_three (by omega) (by omega) (by omega) rest
      · exact decode_four (by omega) (by omega) rest

/-- Only the null character has a zero byte. -/
theorem toNat_of_zero_mem_encodeChar
    {char : Char}
    (zero : 0 ∈ encodeChar char) :
    char.toNat = 0 := by
  have nonzero : ∀ value, 0 < value → value < 256 → (0 : UInt8) ≠ UInt8.ofNat value := by
    intro value positive small same
    have numbers := congrArg UInt8.toNat same
    rw [toNat_ofNat_of_lt small, UInt8.toNat_zero] at numbers
    omega
  refine Nat.eq_zero_of_not_pos fun positive => ?_
  rw [encodeChar_eq] at zero
  split at zero
  · exact nonzero _ positive (by omega) (List.mem_singleton.1 zero)
  · split at zero
    · simp only [List.mem_cons, List.not_mem_nil, or_false] at zero
      rcases zero with same | same <;> exact nonzero _ (by omega) (by omega) same
    · split at zero
      · simp only [List.mem_cons, List.not_mem_nil, or_false] at zero
        rcases zero with same | same | same <;> exact nonzero _ (by omega) (by omega) same
      · simp only [List.mem_cons, List.not_mem_nil, or_false] at zero
        rcases zero with same | same | same | same <;>
          exact nonzero _ (by omega) (by omega) same

/-! ## Texts -/

theorem decode_encode (text : String) :
    decode (encode text) = text.toList.map some := by
  rw [encode]
  induction text.toList with
  | nil => simp [decode]
  | cons char rest induction =>
      rw [List.flatMap_cons, decode_encodeChar_append, induction, List.map_cons]

/-- The bytes of a text have no ill-formed piece. -/
theorem decode?_encode (text : String) :
    decode? (encode text) = some text.toList := by
  rw [decode?, decode_encode, List.mapM_map]
  exact List.mapM_pure.trans (congrArg some (List.map_id' _))

/-- The bytes of a text are read as that text. -/
theorem decodeReplacing_encode (text : String) :
    decodeReplacing (encode text) = text := by
  rw [decodeReplacing, decode_encode, List.map_map]
  simp only [Function.comp_def, Option.getD_some, List.map_id', String.ofList_toList]

theorem zero_not_mem_encode {text : String} (free : '\x00' ∉ text.toList) :
    0 ∉ encode text := by
  rw [encode, List.mem_flatMap]
  rintro ⟨char, member, zero⟩
  have same : char = '\x00' := by
    rw [← Char.ofNat_toNat char, toNat_of_zero_mem_encodeChar zero]
  exact free (same ▸ member)

/-! ## ASCII characters -/

/-- What tail bytes of the usual range can add up to. -/
theorem takeTails_usual
    {bits count value : Nat}
    {bytes rest : List UInt8}
    (taken : takeTails bits 0x80 0xBF count bytes = (some value, rest)) :
    bits * 64 ^ count ≤ value ∧ value < (bits + 1) * 64 ^ count := by
  induction count generalizing bits bytes with
  | zero =>
      cases taken
      omega
  | succ count induction =>
      cases bytes with
      | nil => simp [takeTails] at taken
      | cons byte tail =>
          rw [takeTails] at taken
          split at taken
          · rename_i inRange
            have later := induction taken
            have low : bits * 64 * 64 ^ count ≤ (bits * 64 + (byte.toNat - 0x80)) * 64 ^ count :=
              Nat.mul_le_mul_right _ (by omega)
            have high : (bits * 64 + (byte.toNat - 0x80) + 1) * 64 ^ count ≤
                (bits + 1) * 64 * 64 ^ count :=
              Nat.mul_le_mul_right _ (by omega)
            rw [Nat.pow_succ, Nat.mul_comm (64 ^ count), ← Nat.mul_assoc, ← Nat.mul_assoc]
            omega
          · simp at taken

/-- What tail bytes can add up to when the first one has a range of its own. -/
theorem takeTails_bounds
    {bits low high count value : Nat}
    {bytes rest : List UInt8}
    (least : 0x80 ≤ low)
    (taken : takeTails bits low high (count + 1) bytes = (some value, rest)) :
    (bits * 64 + (low - 0x80)) * 64 ^ count ≤ value ∧
      value < (bits * 64 + (high - 0x80) + 1) * 64 ^ count := by
  cases bytes with
  | nil => simp [takeTails] at taken
  | cons byte tail =>
      rw [takeTails] at taken
      split at taken
      · rename_i inRange
        have later := takeTails_usual taken
        have fromLow : (bits * 64 + (low - 0x80)) * 64 ^ count ≤
            (bits * 64 + (byte.toNat - 0x80)) * 64 ^ count :=
          Nat.mul_le_mul_right _ (by omega)
        have toHigh : (bits * 64 + (byte.toNat - 0x80) + 1) * 64 ^ count ≤
            (bits * 64 + (high - 0x80) + 1) * 64 ^ count :=
          Nat.mul_le_mul_right _ (by omega)
        omega
      · simp at taken

/-- What a lead byte announces: how many tails, and how large the bits can get with the first. -/
theorem lead?_bounds
    {first : Nat}
    {lead : Lead}
    (found : lead? first = some lead) :
    0x80 ≤ lead.low ∧
      let least := lead.bits * 64 + (lead.low - 0x80)
      let greatest := lead.bits * 64 + (lead.high - 0x80)
      lead.tails = 1 ∧ 0x80 ≤ least ∧ greatest < 0x800 ∨
        lead.tails = 2 ∧ 0x20 ≤ least ∧ (greatest < 0x360 ∨ 0x37F < least ∧ greatest < 0x400) ∨
        lead.tails = 3 ∧ 0x10 ≤ least ∧ greatest < 0x110 := by
  rw [lead?] at found
  repeat' split at found
  all_goals first
    | cases Option.some.inj found
      dsimp only
      omega
    | cases found

/-- A lead byte with its tails is a character, and none of ASCII. -/
theorem range_of_lead
    {first value : Nat}
    {lead : Lead}
    {bytes rest : List UInt8}
    (found : lead? first = some lead)
    (taken : takeTails lead.bits lead.low lead.high lead.tails bytes = (some value, rest)) :
    0x80 ≤ value ∧ value.isValidChar := by
  rcases lead?_bounds found with ⟨low, ⟨tails, one⟩ | ⟨tails, two⟩ | ⟨tails, three⟩⟩
  all_goals
    rw [tails] at taken
    have bounds := takeTails_bounds low taken
    rw [Nat.isValidChar]
    omega

theorem toNat_ofNat_of_isValidChar {value : Nat} (valid : value.isValidChar) :
    (Char.ofNat value).toNat = value := by
  rw [Char.ofNat, dif_pos valid]
  rfl

/-- The first piece of some bytes is an ASCII character only where their first byte is it. -/
theorem decode_eq_cons_ascii
    {bytes : List UInt8}
    {char : Char}
    {rest : List Char}
    (ascii : char.toNat < 0x80)
    (decoded : (decode bytes).map (·.getD '\uFFFD') = char :: rest) :
    ∃ tail, bytes = UInt8.ofNat char.toNat :: tail ∧
      (decode tail).map (·.getD '\uFFFD') = rest := by
  have notReplaced : '\uFFFD' ≠ char := by
    rintro rfl
    exact absurd ascii (by decide)
  cases bytes with
  | nil => simp [decode] at decoded
  | cons byte tail =>
      rw [decode] at decoded
      split at decoded
      · rename_i small
        simp only [List.map_cons, Option.getD_some, List.cons.injEq] at decoded
        refine ⟨tail, ?_, decoded.2⟩
        rw [← decoded.1, toNat_ofNat_of_isValidChar (Or.inl (by omega)), UInt8.ofNat_toNat]
      · split at decoded
        · simp only [List.map_cons, Option.getD_none, List.cons.injEq] at decoded
          exact absurd decoded.1 notReplaced
        · rename_i lead found
          cases taken : takeTails lead.bits lead.low lead.high lead.tails tail with
          | mk value after =>
              rw [taken] at decoded
              cases value with
              | none =>
                  simp only [Option.map_none, List.map_cons, Option.getD_none,
                    List.cons.injEq] at decoded
                  exact absurd decoded.1 notReplaced
              | some value =>
                  simp only [Option.map_some, List.map_cons, Option.getD_some,
                    List.cons.injEq] at decoded
                  have range := range_of_lead found taken
                  have code := toNat_ofNat_of_isValidChar range.2
                  rw [decoded.1] at code
                  omega

theorem eq_nil_of_decode {bytes : List UInt8} (nothing : decode bytes = []) :
    bytes = [] := by
  cases bytes with
  | nil => rfl
  | cons byte tail =>
      rw [decode] at nothing
      repeat' split at nothing
      all_goals simp at nothing

/-- Bytes that are read as a text of ASCII characters are the bytes of that text. -/
theorem encode_of_decodeReplacing
    {bytes : List UInt8}
    {text : String}
    (ascii : ∀ char ∈ text.toList, char.toNat < 0x80)
    (decoded : decodeReplacing bytes = text) :
    bytes = encode text := by
  have pieces : (decode bytes).map (·.getD '\uFFFD') = text.toList := by
    rw [← decoded, decodeReplacing, String.toList_ofList]
  rw [encode]
  generalize text.toList = chars at ascii pieces
  clear decoded
  induction chars generalizing bytes with
  | nil => exact eq_nil_of_decode (List.map_eq_nil_iff.1 pieces)
  | cons char rest induction =>
      rw [List.forall_mem_cons] at ascii
      rcases decode_eq_cons_ascii ascii.1 pieces with ⟨tail, rfl, later⟩
      rw [induction ascii.2 later, List.flatMap_cons, encodeChar_eq, if_pos (by omega),
        List.singleton_append]

/-! ## Strict reading -/

/-- A tail byte that is taken lies in its range, and the bits go on with it. -/
theorem takeTails_succ_eq_some
    {bits low high count value : Nat}
    {bytes rest : List UInt8}
    (taken : takeTails bits low high (count + 1) bytes = (some value, rest)) :
    ∃ byte tail, bytes = byte :: tail ∧ low ≤ byte.toNat ∧ byte.toNat ≤ high ∧
      takeTails (bits * 64 + (byte.toNat - 0x80)) 0x80 0xBF count tail = (some value, rest) := by
  cases bytes with
  | nil => simp [takeTails] at taken
  | cons byte tail =>
      rw [takeTails] at taken
      split at taken
      · rename_i inRange
        exact ⟨byte, tail, rfl, inRange.1, inRange.2, taken⟩
      · simp at taken

/-- How a lead byte tells the count of tails and the bits. -/
theorem lead?_form
    {first : Nat}
    {lead : Lead}
    (found : lead? first = some lead) :
    lead.high ≤ 0xBF ∧
      (lead.tails = 1 ∧ first = lead.bits + 0xC0 ∧ lead.bits < 32 ∨
        lead.tails = 2 ∧ first = lead.bits + 0xE0 ∧ lead.bits < 16 ∨
        lead.tails = 3 ∧ first = lead.bits + 0xF0 ∧ lead.bits < 5) := by
  rw [lead?] at found
  repeat' split at found
  all_goals first
    | cases Option.some.inj found
      dsimp only
      omega
    | cases found

theorem eq_ofNat {byte : UInt8} {value : Nat} (same : byte.toNat = value) :
    byte = UInt8.ofNat value := by
  rw [← same, UInt8.ofNat_toNat]

theorem takeTails_zero_eq_some
    {bits low high value : Nat}
    {bytes rest : List UInt8}
    (taken : takeTails bits low high 0 bytes = (some value, rest)) :
    value = bits ∧ bytes = rest := by
  simp only [takeTails, Prod.mk.injEq, Option.some.injEq] at taken
  exact ⟨taken.1.symm, taken.2⟩

/-- A lead byte and its tails are the bytes of the character that they add up to. -/
theorem cons_eq_encodeChar
    {byte : UInt8}
    {value : Nat}
    {lead : Lead}
    {bytes rest : List UInt8}
    (found : lead? byte.toNat = some lead)
    (taken : takeTails lead.bits lead.low lead.high lead.tails bytes = (some value, rest)) :
    byte :: bytes = encodeChar (Char.ofNat value) ++ rest := by
  rcases range_of_lead found taken with ⟨ascii, valid⟩
  rcases lead?_bounds found with ⟨low, bounds⟩
  have form := lead?_form found
  rw [encodeChar_eq, toNat_ofNat_of_isValidChar valid]
  rcases bounds with ⟨tails, bounds⟩ | ⟨tails, bounds⟩ | ⟨tails, bounds⟩
  · rw [tails] at taken
    rcases takeTails_succ_eq_some taken with ⟨second, after, rfl, _, _, taken⟩
    rcases takeTails_zero_eq_some taken with ⟨sum, rfl⟩
    rw [if_neg (by omega), if_pos (by omega)]
    simp only [List.cons_append, List.nil_append, List.cons.injEq, and_true]
    exact ⟨eq_ofNat (by omega), eq_ofNat (by omega)⟩
  · rw [tails] at taken
    rcases takeTails_succ_eq_some taken with ⟨second, after, rfl, _, _, taken⟩
    rcases takeTails_succ_eq_some taken with ⟨third, after, rfl, _, _, taken⟩
    rcases takeTails_zero_eq_some taken with ⟨sum, rfl⟩
    rw [if_neg (by omega), if_neg (by omega), if_pos (by omega)]
    simp only [List.cons_append, List.nil_append, List.cons.injEq, and_true]
    exact ⟨eq_ofNat (by omega), eq_ofNat (by omega), eq_ofNat (by omega)⟩
  · rw [tails] at taken
    rcases takeTails_succ_eq_some taken with ⟨second, after, rfl, _, _, taken⟩
    rcases takeTails_succ_eq_some taken with ⟨third, after, rfl, _, _, taken⟩
    rcases takeTails_succ_eq_some taken with ⟨fourth, after, rfl, _, _, taken⟩
    rcases takeTails_zero_eq_some taken with ⟨sum, rfl⟩
    rw [if_neg (by omega), if_neg (by omega), if_neg (by omega)]
    simp only [List.cons_append, List.nil_append, List.cons.injEq, and_true]
    exact ⟨eq_ofNat (by omega), eq_ofNat (by omega), eq_ofNat (by omega),
      eq_ofNat (by omega)⟩

/-- Where the first piece of some bytes is a character, they begin with its bytes. -/
theorem decode_eq_cons_some
    {bytes : List UInt8}
    {char : Char}
    {pieces : List (Option Char)}
    (decoded : decode bytes = some char :: pieces) :
    ∃ tail, bytes = encodeChar char ++ tail ∧ decode tail = pieces := by
  cases bytes with
  | nil => simp [decode] at decoded
  | cons byte tail =>
      rw [decode] at decoded
      split at decoded
      · rename_i small
        cases decoded
        refine ⟨tail, ?_, rfl⟩
        have code := toNat_ofNat_of_isValidChar (Or.inl (by omega) : byte.toNat.isValidChar)
        rw [encodeChar_eq, code, if_pos (by omega), UInt8.ofNat_toNat, List.singleton_append]
      · split at decoded
        · simp at decoded
        · rename_i lead found
          cases taken : takeTails lead.bits lead.low lead.high lead.tails tail with
          | mk value after =>
              rw [taken] at decoded
              cases value with
              | none => simp at decoded
              | some value =>
                  cases decoded
                  exact ⟨after, cons_eq_encodeChar found taken, rfl⟩

/-- Bytes without an ill-formed piece are the bytes of the text that they are read as. -/
theorem encode_of_decode?
    {bytes : List UInt8}
    {chars : List Char}
    (decoded : decode? bytes = some chars) :
    bytes = encode (String.ofList chars) := by
  have pieces : decode bytes = chars.map some := by
    rw [decode?] at decoded
    generalize decode bytes = pieces at decoded
    induction pieces generalizing chars with
    | nil =>
        cases decoded
        rfl
    | cons piece rest induction =>
        rw [List.mapM_cons] at decoded
        rcases Option.bind_eq_some_iff.1 decoded with ⟨char, rfl, others⟩
        rcases Option.bind_eq_some_iff.1 others with ⟨after, later, ⟨⟩⟩
        rw [induction later, List.map_cons]
  rw [encode, String.toList_ofList]
  clear decoded
  induction chars generalizing bytes with
  | nil => exact eq_nil_of_decode pieces
  | cons char rest induction =>
      rcases decode_eq_cons_some pieces with ⟨tail, rfl, later⟩
      rw [List.flatMap_cons, ← induction later]

/-- Exactly the bytes of texts have no ill-formed piece. -/
theorem decode?_eq_some_iff {bytes : List UInt8} {chars : List Char} :
    decode? bytes = some chars ↔ bytes = encode (String.ofList chars) := by
  refine ⟨encode_of_decode?, ?_⟩
  rintro rfl
  rw [decode?_encode, String.toList_ofList]

end WinrtLint.Text.Utf8
