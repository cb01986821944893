import Mathlib.Algebra.Order.Ring.Nat
import WinrtLint.Bytes

/-!
# Pieces of a byte string

Everything that is written to a byte string is a piece at an offset, and
everything that is read from one is read there.  `HasAt` says that a piece
stands at an offset.  Pieces that follow one another are one piece
(`hasAt_append`), so the layout of a long string of bytes is told by taking it
apart, and each kind of read has one lemma that says what it gives where a
known piece stands.
-/

namespace WinrtLint.Bytes

theorem holds_iff {data : Bytes} {offset count : Nat} :
    data.holds offset count = true ↔ offset + count ≤ data.size :=
  decide_eq_true_iff

/-- A byte string that reaches over some bytes reaches over any part of them. -/
theorem holds_part
    {data : Bytes}
    {offset count place width : Nat}
    (reach : data.holds offset count = true)
    (inside : place + width ≤ count) :
    data.holds (offset + place) width = true := by
  rw [holds_iff] at reach ⊢
  omega

theorem holds_start
    {data : Bytes}
    {offset count width : Nat}
    (reach : data.holds offset count = true)
    (shorter : width ≤ count) :
    data.holds offset width = true := by
  rw [holds_iff] at reach ⊢
  omega

/-! ## Words -/

@[simp]
theorem length_ofWord (width value : Nat) :
    (ofWord width value).length = width := by
  induction width generalizing value with
  | zero => rfl
  | succ width induction => simp [ofWord, induction]

theorem byteAt_of_getElem?
    {data : Bytes}
    {offset : Nat}
    {byte : UInt8}
    (present : data[offset]? = some byte) :
    data.byteAt offset = byte.toNat := by
  simp [byteAt, present]

theorem byteAt_lt (data : Bytes) (offset : Nat) :
    data.byteAt offset < 256 := by
  rw [byteAt]
  split
  · exact UInt8.toNat_lt _
  · decide

theorem word_lt (data : Bytes) (offset width : Nat) :
    data.word offset width < 256 ^ width := by
  induction width generalizing offset with
  | zero => simp [word]
  | succ width induction =>
      have low := byteAt_lt data offset
      have high := induction (offset + 1)
      simp only [word, Nat.pow_succ]
      omega

/-! ## Pieces -/

/-- Whether a piece stands at an offset of a byte string. -/
def HasAt (data : Bytes) (offset : Nat) (piece : List UInt8) : Prop :=
  piece <+: data.toList.drop offset

theorem hasAt_nil (data : Bytes) (offset : Nat) : data.HasAt offset [] :=
  List.nil_prefix

/-- Two pieces stand one behind the other where both together stand. -/
theorem hasAt_append {data : Bytes} {offset : Nat} {first second : List UInt8} :
    data.HasAt offset (first ++ second) ↔
      data.HasAt offset first ∧ data.HasAt (offset + first.length) second := by
  constructor
  · rintro ⟨rest, split⟩
    rw [List.append_assoc] at split
    refine ⟨⟨second ++ rest, split⟩, ⟨rest, ?_⟩⟩
    rw [← List.drop_drop, ← split, List.drop_left]
  · rintro ⟨⟨rest, split⟩, ⟨tail, later⟩⟩
    refine ⟨tail, ?_⟩
    rw [← List.drop_drop, ← split, List.drop_left] at later
    rw [List.append_assoc, later, split]

theorem hasAt_cons
    {data : Bytes}
    {offset : Nat}
    {byte : UInt8}
    {rest : List UInt8} :
    data.HasAt offset (byte :: rest) ↔
      data[offset]? = some byte ∧ data.HasAt (offset + 1) rest := by
  rw [← List.singleton_append, hasAt_append]
  refine and_congr_left fun _ => ?_
  rw [HasAt, ← Array.getElem?_toList, ← List.head?_drop]
  cases data.toList.drop offset with
  | nil => simp
  | cons head tail => simp [eq_comm]

theorem hasAt_self (piece : List UInt8) : HasAt piece.toArray 0 piece := by
  simp [HasAt]

/-- A piece stays where it is when more bytes follow. -/
theorem HasAt.append
    {data : Bytes}
    {offset : Nat}
    {piece : List UInt8}
    (here : data.HasAt offset piece)
    (more : Bytes) :
    HasAt (data ++ more) offset piece := by
  rw [HasAt, Array.toList_append, List.drop_append]
  exact here.trans (List.prefix_append _ _)

/-- The byte string reaches over a piece that has a byte at least. -/
theorem HasAt.holds
    {data : Bytes}
    {offset : Nat}
    {piece : List UInt8}
    (here : data.HasAt offset piece)
    (nonempty : piece ≠ []) :
    data.holds offset piece.length = true := by
  have short := here.length_le
  have long := List.length_pos_iff.2 nonempty
  simp only [List.length_drop, Array.length_toList] at short
  rw [holds_iff]
  omega

theorem HasAt.getElem?
    {data : Bytes}
    {offset : Nat}
    {piece : List UInt8}
    (here : data.HasAt offset piece)
    {place : Nat}
    (inside : place < piece.length) :
    data[offset + place]? = some piece[place] := by
  have same := here.getElem inside
  rw [List.getElem_drop] at same
  rw [same, ← Array.getElem?_toList, List.getElem?_eq_getElem]

theorem HasAt.slice
    {data : Bytes}
    {offset : Nat}
    {piece : List UInt8}
    (here : data.HasAt offset piece) :
    data.slice offset piece.length = piece.toArray := by
  apply Array.ext'
  simpa [Bytes.slice, Array.toList_extract, List.extract_eq_take_drop] using
    (List.prefix_iff_eq_take.1 here).symm

theorem hasAt_slice (data : Bytes) (offset count : Nat) :
    data.HasAt offset (data.slice offset count).toList := by
  simpa [HasAt, Bytes.slice, Array.toList_extract, List.extract_eq_take_drop] using
    List.take_prefix count (data.toList.drop offset)

theorem length_slice
    {data : Bytes}
    {offset count : Nat}
    (reach : data.holds offset count = true) :
    (data.slice offset count).toList.length = count := by
  rw [holds_iff] at reach
  simp [Bytes.slice]
  omega

/-! ## Reading a piece -/

/-- Where the bytes of a number stand, the number is read. -/
theorem HasAt.word
    {data : Bytes}
    {offset width value : Nat}
    (here : data.HasAt offset (ofWord width value))
    (fits : value < 256 ^ width) :
    data.word offset width = value := by
  induction width generalizing offset value with
  | zero =>
      simp only [Nat.pow_zero] at fits
      simp only [Bytes.word]
      omega
  | succ width induction =>
      rw [ofWord, hasAt_cons] at here
      have low : data.byteAt offset = value % 256 := by
        rw [byteAt_of_getElem? here.1]
        simp
      have high : data.word (offset + 1) width = value / 256 := by
        apply induction here.2
        rw [Nat.pow_succ] at fits
        omega
      rw [Bytes.word, low, high]
      omega

/-- Writing the number that a byte string has at an offset gives back the bytes there. -/
theorem ofWord_word
    {data : Bytes}
    {offset width : Nat}
    (reach : data.holds offset width = true) :
    data.HasAt offset (ofWord width (data.word offset width)) := by
  induction width generalizing offset with
  | zero => exact hasAt_nil data offset
  | succ width induction =>
      rw [holds_iff] at reach
      have inside : offset < data.size := by omega
      have present : data[offset]? = some data[offset] :=
        Array.getElem?_eq_getElem inside
      have low : data.byteAt offset = data[offset].toNat :=
        byteAt_of_getElem? present
      have small : data[offset].toNat < 256 := UInt8.toNat_lt _
      have later : data.holds (offset + 1) width = true := by
        rw [holds_iff]
        omega
      have digit :
          (data.byteAt offset + 256 * data.word (offset + 1) width) % 256 =
            data[offset].toNat := by
        omega
      have rest :
          (data.byteAt offset + 256 * data.word (offset + 1) width) / 256 =
            data.word (offset + 1) width := by
        omega
      rw [Bytes.word, ofWord, digit, rest, hasAt_cons]
      refine ⟨?_, induction later⟩
      rw [present, UInt8.ofNat_toNat]

/-- The first zero byte behind a piece without one is the byte that ends it. -/
theorem HasAt.zeroFrom?
    {data : Bytes}
    {offset : Nat}
    {piece : List UInt8}
    (here : data.HasAt offset (piece ++ [0]))
    (free : 0 ∉ piece) :
    data.zeroFrom? offset = some (offset + piece.length) := by
  induction piece generalizing offset with
  | nil =>
      rw [List.nil_append, hasAt_cons, Array.getElem?_eq_some_iff] at here
      rcases here with ⟨⟨inside, zero⟩, -⟩
      rw [Bytes.zeroFrom?, dif_pos inside, if_pos zero]
      rfl
  | cons byte rest induction =>
      rw [List.cons_append, hasAt_cons, Array.getElem?_eq_some_iff] at here
      rcases here with ⟨⟨inside, same⟩, later⟩
      rw [List.mem_cons, not_or] at free
      have differs : data[offset] ≠ 0 := by
        rw [same]
        exact Ne.symm free.1
      rw [Bytes.zeroFrom?, dif_pos inside, if_neg differs,
        induction later free.2, List.length_cons]
      congr 1
      omega

/-! ## More bytes behind -/

theorem holds_append
    {data : Bytes}
    {offset count : Nat}
    (reach : data.holds offset count = true)
    (more : Bytes) :
    Bytes.holds (data ++ more) offset count = true := by
  rw [holds_iff] at reach ⊢
  rw [Array.size_append]
  omega

/-- What a byte string has at an offset is not changed by bytes behind it. -/
theorem slice_append
    {data : Bytes}
    {offset count : Nat}
    (reach : data.holds offset count = true)
    (more : Bytes) :
    Bytes.slice (data ++ more) offset count = data.slice offset count := by
  have longer := ((hasAt_slice data offset count).append more).slice
  rwa [length_slice reach] at longer

theorem word_append
    {data : Bytes}
    {offset width : Nat}
    (reach : data.holds offset width = true)
    (more : Bytes) :
    Bytes.word (data ++ more) offset width = data.word offset width :=
  ((ofWord_word reach).append more).word (word_lt data offset width)

end WinrtLint.Bytes
