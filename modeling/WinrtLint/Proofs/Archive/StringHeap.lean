import WinrtLint.Archive.Extraction
import WinrtLint.Proofs.Archive.StreamDirectory
import WinrtLint.Proofs.Text.Utf8

/-!
# Strings of the heap

A string ends before the first zero byte, or where the heap ends.  Comparing
the bytes at an offset with those of a plain name is the same as reading the
string there and comparing texts (`hasStringAt_iff`), so a method whose name
stays unread is retained exactly when it would be with its name read
(`isRetained_eq`).
-/

namespace WinrtLint.Archive.Metadata

open WinrtLint.Bytes
open WinrtLint.Outcome
open WinrtLint.Text

/-! ## Where a string ends -/

/-- The string at an offset ends at a zero byte or at the end, and has no zero byte. -/
theorem stringEnd_spec
    {heap : Bytes}
    {offset : Nat}
    (inside : offset ≤ heap.size) :
    offset ≤ stringEnd heap offset ∧ stringEnd heap offset ≤ heap.size ∧
      heap.byteAt (stringEnd heap offset) = 0 ∧
      ∀ place, offset ≤ place → place < stringEnd heap offset → heap.byteAt place ≠ 0 := by
  rw [stringEnd]
  induction offset using Bytes.zeroFrom?.induct heap with
  | case1 offset within zero =>
      rw [zeroFrom?, dif_pos within, if_pos zero, Option.getD_some]
      refine ⟨Nat.le_refl _, Nat.le_of_lt within, ?_, by omega⟩
      rw [byteAt_of_getElem? (Array.getElem?_eq_getElem within), zero]
      rfl
  | case2 offset within nonzero induction =>
      rcases induction within with ⟨least, greatest, zero, between⟩
      rw [zeroFrom?, dif_pos within, if_neg nonzero]
      refine ⟨by omega, greatest, zero, ?_⟩
      intro place behind before
      by_cases here : place = offset
      · subst here
        rw [byteAt_of_getElem? (Array.getElem?_eq_getElem within)]
        exact fun same => nonzero (UInt8.toNat_inj.1 same)
      · exact between place (by omega) before
  | case3 offset outside =>
      rw [zeroFrom?, dif_neg outside, Option.getD_none]
      refine ⟨inside, Nat.le_refl _, ?_, by omega⟩
      simp [byteAt]

/-- Bytes without a zero byte, with one behind them or the end of the heap, are the string. -/
theorem stringEnd_of_hasAt
    {heap : Bytes}
    {offset : Nat}
    {piece : List UInt8}
    (here : heap.HasAt offset piece)
    (free : 0 ∉ piece)
    (inside : offset ≤ heap.size)
    (ended : heap.byteAt (offset + piece.length) = 0) :
    stringEnd heap offset = offset + piece.length := by
  rcases stringEnd_spec inside with ⟨least, -, zero, between⟩
  apply Nat.le_antisymm
  · exact Nat.le_of_not_lt fun before =>
      between (offset + piece.length) (Nat.le_add_right _ _) before ended
  · refine Nat.le_of_not_lt fun before => ?_
    -- The end would be one of the bytes of the piece, of which none is zero.
    have place : stringEnd heap offset - offset < piece.length := by omega
    have byte := here.getElem? place
    rw [Nat.add_sub_cancel' least] at byte
    rw [byteAt_of_getElem? byte] at zero
    have same : piece[stringEnd heap offset - offset] = 0 := UInt8.toNat_inj.1 zero
    exact free (same ▸ List.getElem_mem place)

theorem stringFrom_of_hasAt
    {heap : Bytes}
    {offset : Nat}
    {piece : List UInt8}
    (here : heap.HasAt offset piece)
    (free : 0 ∉ piece)
    (inside : offset ≤ heap.size)
    (ended : heap.byteAt (offset + piece.length) = 0) :
    stringFrom heap offset = Utf8.decodeReplacing piece := by
  have bytes := here.slice
  rw [Bytes.slice] at bytes
  rw [stringFrom, stringEnd_of_hasAt here free inside ended, bytes]

/-- Comparing bytes with those of a plain name is comparing the string with the name. -/
theorem hasStringAt_iff
    {heap : Bytes}
    {text : String}
    {offset : Nat}
    (plain : Root.PlainName text)
    (inside : offset ≤ heap.size) :
    hasStringAt heap text offset = true ↔ stringFrom heap offset = text := by
  have free : 0 ∉ Utf8.encode text := by
    apply Utf8.zero_not_mem_encode
    intro null
    exact absurd (plain _ null).1 (by decide)
  simp only [hasStringAt, Bool.and_eq_true, decide_eq_true_eq, List.size_toArray]
  constructor
  · rintro ⟨same, ended⟩
    have here := hasAt_slice heap offset (Utf8.encode text).length
    rw [same] at here
    rw [stringFrom_of_hasAt here free inside ended, Utf8.decodeReplacing_encode]
  · intro same
    rcases stringEnd_spec inside with ⟨least, within, zero, -⟩
    have bytes := Utf8.encode_of_decodeReplacing (fun char member => (plain char member).2) same
    have length := congrArg List.length bytes
    simp only [Array.length_toList, Array.size_extract] at length
    have stop : stringEnd heap offset = offset + (Utf8.encode text).length := by omega
    refine ⟨?_, stop ▸ zero⟩
    rw [Bytes.slice, ← stop, ← bytes]

/-! ## Retained methods -/

theorem needString_eq_ok {metadata : Metadata} {offset : Nat} :
    metadata.needString offset = .ok () ↔
      offset = 0 ∨ offset < metadata.root.strings.size := by
  simp only [needString, Bool.and_eq_true, decide_eq_true_eq]
  split
  · simp only [reduceCtorEq, false_iff]
    omega
  · simp only [true_iff]
    omega

/-- The number of the row of the method at a position in the lists of methods. -/
def methodNumber (metadata : Metadata) (position : Nat) :
    Except FormatError Nat :=
  if metadata.usesMethodPointers then (metadata.row .methodPtr position).map (·.cell 0)
  else .ok position

/-- A method is looked for by the number of its row, and then its name in the heap. -/
theorem methodEntry_eq (metadata : Metadata) (position : Nat) :
    metadata.methodEntry position =
      metadata.methodNumber position >>= fun number =>
        metadata.row .methodDef number >>= fun row =>
          metadata.needString (row.cell 3) >>= fun _ => pure ⟨row.cell 3, row.cell 2⟩ := by
  rw [methodEntry, methodNumber]
  split
  · cases metadata.row .methodPtr position <;> rfl
  · rfl

/-- A method is found by its row, and its name has to be a string of the heap. -/
theorem methodEntry_eq_ok
    {metadata : Metadata}
    {position : Nat}
    {entry : MethodEntry} :
    metadata.methodEntry position = .ok entry ↔
      ∃ number row, metadata.methodNumber position = .ok number ∧
        metadata.row .methodDef number = .ok row ∧
        metadata.needString (row.cell 3) = .ok () ∧
        entry = ⟨row.cell 3, row.cell 2⟩ := by
  rw [methodEntry_eq]
  constructor
  · intro found
    rcases bind_eq_ok.1 found with ⟨number, counted, found⟩
    rcases bind_eq_ok.1 found with ⟨row, there, found⟩
    rcases bind_eq_ok.1 found with ⟨⟨⟩, named, same⟩
    exact ⟨number, row, counted, there, named, (pure_eq_ok.1 same).symm⟩
  · rintro ⟨number, row, counted, there, named, rfl⟩
    rw [counted, ok_bind, there, ok_bind, named]
    rfl

/-- A method is retained without its name being read exactly when it is with its name read. -/
theorem isRetained_eq
    {metadata : Metadata}
    {position : Nat}
    {entry : MethodEntry}
    (found : metadata.methodEntry position = .ok entry) :
    metadata.isRetained entry = (metadata.defineMethod entry).isRetained := by
  have constructor :
      (decide (entry.nameOffset ≠ 0) &&
        hasStringAt metadata.root.strings constructorName entry.nameOffset) =
      (metadata.defineMethod entry).isConstructor := by
    rw [MethodDefinition.isConstructor, defineMethod, stringAtOffset]
    rcases methodEntry_eq_ok.1 found with ⟨number, row, -, -, named, rfl⟩
    rcases needString_eq_ok.1 named with none | inside
    · simp [none, constructorName]
    · by_cases none : row.cell 3 = 0
      · simp [none, constructorName]
      · rw [if_neg none, decide_eq_true none, Bool.true_and, Bool.eq_iff_iff, decide_eq_true_iff]
        exact hasStringAt_iff (by decide) (Nat.le_of_lt inside)
  rw [isRetained, constructor, MethodDefinition.isRetained, Bool.or_comm]
  rfl

/-- The retained members of a type are the names of those of its methods that are retained. -/
theorem retainedMembers_eq (metadata : Metadata) (row : Nat) :
    retainedMembers metadata row =
      (metadata.methods row).map fun methods =>
        (methods.filter (·.isRetained)).map (·.name) := by
  have each : retainedMember? metadata = fun position =>
      (metadata.methodAt position).map fun method =>
        if method.isRetained then some method.name else none := by
    funext position
    rw [retainedMember?, methodAt]
    cases found : metadata.methodEntry position with
    | error fault => rfl
    | ok entry =>
        simp only [ok_bind, isRetained_eq found]
        rfl
  rw [retainedMembers, methods, each, mapM_map]
  cases (metadata.methodPositions row).mapM metadata.methodAt with
  | error fault => rfl
  | ok found =>
      simp only [Except.map, ok_bind, List.filterMap_map, Function.id_comp, pure, Except.pure,
        Except.ok.injEq]
      induction found with
      | nil => rfl
      | cons method rest induction =>
          by_cases kept : method.isRetained <;> simp [kept, induction]

end WinrtLint.Archive.Metadata
