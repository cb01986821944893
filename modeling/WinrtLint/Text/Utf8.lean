import WinrtLint.Text.Hex

/-!
# UTF-8

Decoding yields one piece for each character and one for each maximal
ill-formed subsequence of bytes.  The three ways to read bytes as text differ
only in what they make of an ill-formed piece: it is replaced, dropped, or
makes the whole text unreadable.
-/

namespace WinrtLint.Text.Utf8

/-- What a lead byte announces: the tail bytes to come and the range of the first. -/
structure Lead where
  /-- The bits that the lead byte contributes. -/
  bits : Nat
  /-- How many tail bytes follow. -/
  tails : Nat
  /-- Least value of the first tail byte. -/
  low : Nat
  /-- Greatest value of the first tail byte. -/
  high : Nat

/--
The lead bytes of sequences of two, three and four bytes.  The range of the
first tail byte rules out overlong forms, surrogates and code points above
`U+10FFFF`.
-/
def lead? (byte : Nat) : Option Lead :=
  if 0xC2 ≤ byte ∧ byte ≤ 0xDF then some ⟨byte - 0xC0, 1, 0x80, 0xBF⟩
  else if byte = 0xE0 then some ⟨0, 2, 0xA0, 0xBF⟩
  else if byte = 0xED then some ⟨13, 2, 0x80, 0x9F⟩
  else if 0xE1 ≤ byte ∧ byte ≤ 0xEF then some ⟨byte - 0xE0, 2, 0x80, 0xBF⟩
  else if byte = 0xF0 then some ⟨0, 3, 0x90, 0xBF⟩
  else if 0xF1 ≤ byte ∧ byte ≤ 0xF3 then some ⟨byte - 0xF0, 3, 0x80, 0xBF⟩
  else if byte = 0xF4 then some ⟨4, 3, 0x80, 0x8F⟩
  else none

/--
Take the announced tail bytes: the bits gathered, or `none` where the
sequence breaks off, with the bytes that were not used.
-/
def takeTails (bits low high : Nat) : Nat → List UInt8 → Option Nat × List UInt8
  | 0, rest => (some bits, rest)
  | _ + 1, [] => (none, [])
  | count + 1, byte :: rest =>
      if low ≤ byte.toNat ∧ byte.toNat ≤ high then
        takeTails (bits * 64 + (byte.toNat - 0x80)) 0x80 0xBF count rest
      else (none, byte :: rest)

theorem length_takeTails_le (bits low high count : Nat) (bytes : List UInt8) :
    (takeTails bits low high count bytes).2.length ≤ bytes.length := by
  induction count generalizing bits low high bytes with
  | zero => simp [takeTails]
  | succ count induction =>
      cases bytes with
      | nil => simp [takeTails]
      | cons byte rest =>
          simp only [takeTails]
          split
          · have bound := induction (bits * 64 + (byte.toNat - 0x80)) 0x80 0xBF rest
            simp only [List.length_cons]
            omega
          · simp

/--
The pieces of a byte sequence: a character, or `none` for a maximal
ill-formed subsequence.
-/
def decode : List UInt8 → List (Option Char)
  | [] => []
  | byte :: rest =>
      if byte.toNat < 0x80 then some (Char.ofNat byte.toNat) :: decode rest
      else
        match lead? byte.toNat with
        | none => none :: decode rest
        | some lead =>
            let taken := takeTails lead.bits lead.low lead.high lead.tails rest
            taken.1.map Char.ofNat :: decode taken.2
termination_by bytes => bytes.length
decreasing_by
  · exact Nat.lt_succ_self _
  · exact Nat.lt_succ_self _
  · exact Nat.lt_succ_of_le (length_takeTails_le _ _ _ _ _)

/-- The text of a byte sequence, each ill-formed piece shown as `U+FFFD`. -/
def decodeReplacing (bytes : List UInt8) : String :=
  String.ofList ((decode bytes).map (·.getD '\uFFFD'))

/-- The text of a byte sequence with the ill-formed pieces left out. -/
def decodeIgnoring (bytes : List UInt8) : String :=
  String.ofList ((decode bytes).filterMap id)

/-- The characters of a byte sequence that has no ill-formed piece. -/
def decode? (bytes : List UInt8) : Option (List Char) :=
  (decode bytes).mapM id

/-- What makes a sequence of bytes ill-formed. -/
inductive Cause where
  /-- A byte begins no character. -/
  | start
  /-- A character breaks off before a byte that does not belong to it. -/
  | continuation
  /-- The bytes end within a character. -/
  | ending
  deriving DecidableEq, Repr

/-- The wording of a cause. -/
def Cause.message : Cause → String
  | .start => "invalid start byte"
  | .continuation => "invalid continuation byte"
  | .ending => "unexpected end of data"

/-- An ill-formed piece of a sequence of bytes. -/
structure Fault where
  /-- How many bytes stand before it. -/
  offset : Nat
  /-- How many bytes it has. -/
  size : Nat
  /-- Its first byte. -/
  byte : UInt8
  cause : Cause
  deriving DecidableEq, Repr

/-- The wording of an ill-formed piece. -/
def Fault.message (fault : Fault) : String :=
  let place :=
    if fault.size = 1 then
      "byte " ++ Hex.ofTable fault.byte.toNat ++ " in position " ++ toString fault.offset
    else
      "bytes in position " ++ toString fault.offset ++ "-" ++
        toString (fault.offset + fault.size - 1)
  "'utf-8' codec can't decode " ++ place ++ ": " ++ fault.cause.message

/-- The first ill-formed piece of bytes that stand at an offset. -/
def faultFrom? (offset : Nat) : List UInt8 → Option Fault
  | [] => none
  | byte :: rest =>
      if byte.toNat < 0x80 then faultFrom? (offset + 1) rest
      else
        match lead? byte.toNat with
        | none => some ⟨offset, 1, byte, .start⟩
        | some lead =>
            let taken := takeTails lead.bits lead.low lead.high lead.tails rest
            match taken.1 with
            | some _ => faultFrom? (offset + lead.tails + 1) taken.2
            | none =>
                some ⟨offset, rest.length + 1 - taken.2.length, byte,
                  if taken.2.isEmpty then .ending else .continuation⟩
termination_by bytes => bytes.length
decreasing_by
  · exact Nat.lt_succ_self _
  · exact Nat.lt_succ_of_le (length_takeTails_le _ _ _ _ _)

/-- The first ill-formed piece of a sequence of bytes. -/
def fault? (bytes : List UInt8) : Option Fault :=
  faultFrom? 0 bytes

/-- The bytes of a character. -/
def encodeChar (char : Char) : List UInt8 :=
  String.utf8EncodeChar char

/-- The bytes of a text. -/
def encode (text : String) : List UInt8 :=
  text.toList.flatMap encodeChar

end WinrtLint.Text.Utf8

namespace WinrtLint.Text.Ascii

/-- The text of a byte sequence, each byte outside ASCII shown as `U+FFFD`. -/
def decodeReplacing (bytes : List UInt8) : String :=
  String.ofList <| bytes.map fun byte =>
    if byte.toNat < 0x80 then Char.ofNat byte.toNat else '\uFFFD'

/-- The lower-case form of an ASCII capital letter; other characters stay. -/
def lowerChar (char : Char) : Char :=
  if 'A' ≤ char ∧ char ≤ 'Z' then Char.ofNat (char.toNat + 32) else char

/-- Write the ASCII capital letters of a text in lower case. -/
def lower (text : String) : String :=
  String.ofList (text.toList.map lowerChar)

/-- The bytes of a text of ASCII characters. -/
def encode (text : String) : List UInt8 :=
  text.toList.map fun char => UInt8.ofNat char.toNat

end WinrtLint.Text.Ascii
