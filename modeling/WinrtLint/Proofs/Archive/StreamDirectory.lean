import WinrtLint.Archive.Root
import WinrtLint.Proofs.Bytes
import WinrtLint.Proofs.Outcome
import WinrtLint.Proofs.Text.Utf8

/-!
# Writing the root of the metadata, and reading it back

A root is written as its signature, its version and one header for each stream:
where the stream is, how long it is, and its name with a zero byte, padded to a
multiple of four bytes.  A header is read where it stands, and the next one is
looked for behind its padding (`readExtents_header`), so headers in a row are
read in that order whatever the streams hold (`readExtents_of_written`).  What
a reader sees of the whole is in `directory_read_back`.
-/

namespace WinrtLint.Archive.Root

open WinrtLint.Bytes
open WinrtLint.Outcome

theorem need_eq_ok {data : Bytes} {offset count : Nat} :
    need data offset count = .ok () ↔ data.holds offset count = true := by
  rw [need]
  split <;> simp_all

/-! ## Names -/

/-- Fill bytes up with zero bytes to a multiple of four. -/
def pad4 (bytes : List UInt8) : List UInt8 :=
  bytes ++ List.replicate ((4 - bytes.length % 4) % 4) 0

theorem length_pad4 (bytes : List UInt8) :
    (pad4 bytes).length = (bytes.length + 3) / 4 * 4 := by
  rw [pad4, List.length_append, List.length_replicate]
  omega

/-- Whether a text is of ASCII characters other than the null character. -/
def PlainName (name : String) : Prop :=
  ∀ char ∈ name.toList, 0 < char.toNat ∧ char.toNat < 0x80

instance (name : String) : Decidable (PlainName name) :=
  decidable_of_iff
    (name.toList.all fun char => decide (0 < char.toNat) && decide (char.toNat < 0x80))
    (by simp [PlainName])

theorem zero_not_mem_encode {name : String} (plain : PlainName name) :
    0 ∉ Text.Ascii.encode name := by
  rw [Text.Ascii.encode, List.mem_map]
  rintro ⟨char, member, zero⟩
  have range := plain char member
  have same := congrArg UInt8.toNat zero
  simp at same
  omega

theorem decodeReplacing_encode {name : String} (plain : PlainName name) :
    Text.Ascii.decodeReplacing (Text.Ascii.encode name) = name := by
  have back : ∀ char ∈ name.toList,
      ((fun byte : UInt8 => if byte.toNat < 0x80 then Char.ofNat byte.toNat else '\uFFFD') ∘
        fun char => UInt8.ofNat char.toNat) char = char := by
    intro char member
    have range := plain char member
    have byte : (UInt8.ofNat char.toNat).toNat = char.toNat := by
      simp only [UInt8.toNat_ofNat']
      omega
    rw [Function.comp_apply, byte, if_pos range.2, Char.ofNat_toNat]
  rw [Text.Ascii.decodeReplacing, Text.Ascii.encode, List.map_map,
    List.map_congr_left back, List.map_id', String.ofList_toList]

theorem length_encode (name : String) :
    (Text.Ascii.encode name).length = name.toList.length :=
  List.length_map ..

/-! ## Headers of streams -/

/-- The bytes of the name of a stream. -/
def encodeName (name : String) : List UInt8 :=
  pad4 (Text.Ascii.encode name ++ [0])

theorem length_encodeName (name : String) :
    (encodeName name).length = paddedLength (Text.Ascii.encode name).length := by
  rw [encodeName, length_pad4, List.length_append, List.length_singleton, paddedLength]

/-- The bytes of the header of a stream. -/
def encodeStream (stream : String × Extent) : List UInt8 :=
  ofWord 4 stream.2.start ++ ofWord 4 stream.2.size ++ encodeName stream.1

/-- Whether a stream can be announced in some metadata: its name is plain, its range fits the
fields of its header, and the metadata reaches over it. -/
structure Announces (data : Bytes) (stream : String × Extent) : Prop where
  plain : PlainName stream.1
  start_lt : stream.2.start < 2 ^ 32
  size_lt : stream.2.size < 2 ^ 32
  reach : data.holds stream.2.start stream.2.size = true

/-- A header is read where it stands; what fills it up does not matter. -/
theorem readExtents_header
    {data : Bytes}
    {name : String}
    {extent : Extent}
    {offset : Nat}
    (plain : PlainName name)
    (startFits : extent.start < 2 ^ 32)
    (sizeFits : extent.size < 2 ^ 32)
    (here : data.HasAt offset (ofWord 4 extent.start ++ ofWord 4 extent.size ++
      (Text.Ascii.encode name ++ [0])))
    (count : Nat)
    (sofar : Dictionary String Extent) :
    readExtents data (count + 1) offset sofar =
      if data.holds extent.start extent.size then
        readExtents data count (offset + (8 + paddedLength (Text.Ascii.encode name).length))
          (sofar.insert name extent)
      else .error (.streamPastEnd name) := by
  have reach := here.holds (by simp [ofWord])
  simp only [List.length_append, length_ofWord] at reach
  simp only [hasAt_append, List.length_append, length_ofWord] at here
  rcases here with ⟨⟨startHere, sizeHere⟩, nameHere⟩
  have start := startHere.word startFits
  have size := sizeHere.word sizeFits
  have stop := (hasAt_append.2 nameHere).zeroFrom? (zero_not_mem_encode plain)
  have read := nameHere.1.slice
  rw [Bytes.slice] at read
  rw [readExtents, need_eq_ok.2 (holds_start reach (by omega))]
  simp only [ok_bind, stop, read, start, size]
  rw [decodeReplacing_encode plain, Nat.add_sub_cancel_left, Nat.add_assoc offset 8]
  rfl

/-- The header of a stream as it is written, with the bytes that fill it up. -/
structure Header where
  name : String
  extent : Extent
  filler : List UInt8
  deriving DecidableEq, Repr

namespace Header

def bytes (header : Header) : List UInt8 :=
  ofWord 4 header.extent.start ++ ofWord 4 header.extent.size ++
    (Text.Ascii.encode header.name ++ [0]) ++ header.filler

/-- Whether the parts of a header fit their fields, and it is filled up to a multiple of four
bytes and no further. -/
structure Writable (header : Header) : Prop where
  plain : PlainName header.name
  start_lt : header.extent.start < 2 ^ 32
  size_lt : header.extent.size < 2 ^ 32
  aligned : 4 ∣ header.bytes.length
  filler_lt : header.filler.length < 4

instance (header : Header) : Decidable header.Writable :=
  decidable_of_iff
    (PlainName header.name ∧ header.extent.start < 2 ^ 32 ∧ header.extent.size < 2 ^ 32 ∧
      4 ∣ header.bytes.length ∧ header.filler.length < 4)
    ⟨fun ⟨plain, start, size, aligned, filler⟩ => ⟨plain, start, size, aligned, filler⟩,
      fun ⟨plain, start, size, aligned, filler⟩ => ⟨plain, start, size, aligned, filler⟩⟩

theorem Writable.length_bytes {header : Header} (writable : header.Writable) :
    header.bytes.length = 8 + paddedLength (Text.Ascii.encode header.name).length := by
  have aligned := writable.aligned
  have short := writable.filler_lt
  simp only [bytes, List.length_append, length_ofWord, List.length_singleton] at aligned ⊢
  rw [paddedLength]
  omega

def zeroFilled (stream : String × Extent) : Header :=
  ⟨stream.1, stream.2,
    List.replicate ((4 - (Text.Ascii.encode stream.1 ++ [0]).length % 4) % 4) 0⟩

theorem bytes_zeroFilled (stream : String × Extent) :
    (zeroFilled stream).bytes = encodeStream stream :=
  List.append_assoc ..

theorem writable_zeroFilled
    {stream : String × Extent}
    (plain : PlainName stream.1)
    (startFits : stream.2.start < 2 ^ 32)
    (sizeFits : stream.2.size < 2 ^ 32) :
    (zeroFilled stream).Writable where
  plain := plain
  start_lt := startFits
  size_lt := sizeFits
  aligned := by
    rw [bytes_zeroFilled]
    simp only [encodeStream, List.length_append, length_ofWord, length_encodeName, paddedLength]
    omega
  filler_lt := by
    rw [zeroFilled, List.length_replicate]
    omega

/-- A header that is reached over is read, and reading goes on behind it. -/
theorem Writable.readExtents_eq
    {data : Bytes}
    {header : Header}
    {offset : Nat}
    (writable : header.Writable)
    (here : data.HasAt offset header.bytes)
    (count : Nat)
    (sofar : Dictionary String Extent) :
    readExtents data (count + 1) offset sofar =
      if data.holds header.extent.start header.extent.size then
        readExtents data count (offset + header.bytes.length)
          (sofar.insert header.name header.extent)
      else .error (.streamPastEnd header.name) := by
  rw [writable.length_bytes]
  exact readExtents_header writable.plain writable.start_lt writable.size_lt
    (hasAt_append.1 here).1 count sofar

end Header

/-- Headers are read where they stand in a row, and reading goes on behind them. -/
theorem readExtents_of_written
    {data : Bytes}
    {headers : List Header}
    {offset : Nat}
    {sofar : Dictionary String Extent}
    (writable : ∀ header ∈ headers, header.Writable)
    (reached : ∀ header ∈ headers, data.holds header.extent.start header.extent.size = true)
    (here : data.HasAt offset (headers.flatMap Header.bytes))
    (count : Nat) :
    readExtents data (headers.length + count) offset sofar =
      readExtents data count (offset + (headers.flatMap Header.bytes).length)
        (headers.foldl (fun extents header => extents.insert header.name header.extent) sofar) := by
  induction headers generalizing offset sofar with
  | nil => rw [List.length_nil, Nat.zero_add, List.flatMap_nil, List.length_nil, Nat.add_zero,
      List.foldl_nil]
  | cons header rest induction =>
      rw [List.forall_mem_cons] at writable reached
      rw [List.flatMap_cons, hasAt_append] at here
      rw [List.length_cons, Nat.add_right_comm, writable.1.readExtents_eq here.1,
        if_pos reached.1, induction writable.2 reached.2 here.2, List.flatMap_cons,
        List.length_append, Nat.add_assoc, List.foldl_cons]

/-- Headers of streams are read where their bytes stand. -/
theorem readExtents_of_hasAt
    {data : Bytes}
    {streams : List (String × Extent)}
    {offset : Nat}
    {sofar : Dictionary String Extent}
    (announced : ∀ stream ∈ streams, Announces data stream)
    (here : data.HasAt offset (streams.flatMap encodeStream)) :
    readExtents data streams.length offset sofar =
      .ok (streams.foldl (fun extents stream => extents.insert stream.1 stream.2) sofar) := by
  have writable : ∀ header ∈ streams.map Header.zeroFilled, header.Writable := by
    rw [List.forall_mem_map]
    intro stream member
    have fits := announced stream member
    exact Header.writable_zeroFilled fits.plain fits.start_lt fits.size_lt
  have reached : ∀ header ∈ streams.map Header.zeroFilled,
      data.holds header.extent.start header.extent.size = true := by
    rw [List.forall_mem_map]
    exact fun stream member => (announced stream member).reach
  have written : (streams.map Header.zeroFilled).flatMap Header.bytes =
      streams.flatMap encodeStream := by
    rw [List.flatMap_map]
    exact List.flatMap_congr fun stream _ => Header.bytes_zeroFilled stream
  rw [← written] at here
  have read := @readExtents_of_written _ _ _ sofar writable reached here 0
  rw [List.length_map, List.foldl_map] at read
  exact read

/-! ## Roots -/

/-- What stands in front of the headers of a root, but for the signature and the count. -/
structure Opening where
  major : Nat
  minor : Nat
  reserved : Nat
  version : List UInt8
  flags : Nat

def Opening.bytes (opening : Opening) (count : Nat) : List UInt8 :=
  ofWord 4 signature ++ ofWord 2 opening.major ++ ofWord 2 opening.minor ++
    ofWord 4 opening.reserved ++ ofWord 4 opening.version.length ++ opening.version ++
    ofWord 2 opening.flags ++ ofWord 2 count

/-- Where an opening stands, a root is read as its version and the streams behind it. -/
theorem parse_of_opening
    {data : Bytes}
    {opening : Opening}
    {count : Nat}
    (versionFits : opening.version.length < 2 ^ 32)
    (countFits : count < 2 ^ 16)
    (here : data.HasAt 0 (opening.bytes count)) :
    parse data =
      (readExtents data count (opening.bytes count).length .empty).map fun extents =>
        { version := Text.Utf8.decodeReplacing (untilZero opening.version)
          streams := extents.map fun extent => data.slice extent.start extent.size } := by
  have reach := here.holds (by simp [Opening.bytes, ofWord])
  simp only [Opening.bytes, hasAt_append, List.length_append, length_ofWord,
    Nat.zero_add] at here reach ⊢
  rcases here with
    ⟨⟨⟨⟨⟨⟨⟨signatureHere, -⟩, -⟩, -⟩, lengthHere⟩, versionHere⟩, -⟩, countHere⟩
  have length := lengthHere.word versionFits
  have announced := countHere.word countFits
  have behindVersion : data.holds (16 + opening.version.length) 4 = true := by
    rw [holds_iff] at reach ⊢
    omega
  rw [parse, need_eq_ok.2 (holds_start reach (by omega)), signatureHere.word (by decide), ok_bind]
  simp only [ne_eq, not_true, if_false, length, versionHere.slice]
  rw [need_eq_ok.2 behindVersion, ok_bind, announced]
  cases readExtents data count (16 + opening.version.length + 2 + 2) .empty <;> rfl

/-- The bytes of a root with some version and streams. -/
def encode (version : List UInt8) (streams : List (String × Extent)) :
    List UInt8 :=
  ofWord 4 signature ++ ofWord 2 1 ++ ofWord 2 1 ++ ofWord 4 0 ++ ofWord 4 version.length ++
    version ++ ofWord 2 0 ++ ofWord 2 streams.length ++ streams.flatMap encodeStream

/-- A root is read where its bytes stand; the last of some streams of one name counts. -/
theorem parse_of_hasAt
    {data : Bytes}
    {version : List UInt8}
    {streams : List (String × Extent)}
    (versionFits : version.length < 2 ^ 32)
    (streamsFit : streams.length < 2 ^ 16)
    (announced : ∀ stream ∈ streams, Announces data stream)
    (here : data.HasAt 0 (encode version streams)) :
    parse data = .ok {
      version := Text.Utf8.decodeReplacing (untilZero version)
      streams := (Dictionary.ofList streams).map fun extent =>
        data.slice extent.start extent.size } := by
  rcases hasAt_append.1 here with ⟨openingHere, headersHere⟩
  have opened := @parse_of_opening data ⟨1, 1, 0, version, 0⟩ _ versionFits streamsFit openingHere
  rw [Nat.zero_add] at headersHere
  rw [opened, Opening.bytes, readExtents_of_hasAt announced headersHere]
  rfl

/-! ## What is read back -/

theorem untilZero_padded
    {bytes : List UInt8}
    (free : 0 ∉ bytes)
    (padding : Nat) :
    untilZero (bytes ++ List.replicate padding 0) = bytes := by
  have kept : ∀ byte ∈ bytes, decide (byte ≠ 0) = true :=
    fun byte member => decide_eq_true fun zero => free (zero ▸ member)
  rw [untilZero, List.takeWhile_append_of_pos kept]
  cases padding <;> simp [List.replicate_succ]

namespace Header

def entry (header : Header) : String × Extent :=
  (header.name, header.extent)

def PastEnd (data : Bytes) (header : Header) : Prop :=
  data.size < header.extent.start + header.extent.size

instance (data : Bytes) (header : Header) : Decidable (header.PastEnd data) :=
  inferInstanceAs (Decidable (_ < _))

theorem holds_eq {data : Bytes} {header : Header} :
    data.holds header.extent.start header.extent.size = true ↔ ¬ header.PastEnd data := by
  rw [holds_iff, PastEnd, Nat.not_lt]

end Header

section Directory

variable
    {data : Bytes}
    {opening : Opening}
    {headers : List Header}
    {count : Nat}

theorem parse_of_inside
    (versionFits : opening.version.length < 2 ^ 32)
    (countFits : headers.length < 2 ^ 16)
    (writable : ∀ header ∈ headers, header.Writable)
    (written : data.HasAt 0 (opening.bytes headers.length ++ headers.flatMap Header.bytes))
    (inside : ∀ header ∈ headers, ¬ header.PastEnd data) :
    parse data = .ok {
      version := Text.Utf8.decodeReplacing (untilZero opening.version)
      streams := (Dictionary.ofList (headers.map Header.entry)).map fun extent =>
        data.slice extent.start extent.size } := by
  rcases hasAt_append.1 written with ⟨openingHere, headersHere⟩
  rw [Nat.zero_add] at headersHere
  have read := @readExtents_of_written _ _ _ .empty writable
    (fun header member => Header.holds_eq.2 (inside header member)) headersHere 0
  rw [Nat.add_zero] at read
  rw [parse_of_opening versionFits countFits openingHere, read, Dictionary.ofList, List.foldl_map]
  rfl

/-- The first stream that goes past the end is refused, whatever is announced behind it. -/
theorem parse_of_past_end
    (versionFits : opening.version.length < 2 ^ 32)
    (countFits : count < 2 ^ 16)
    (writable : ∀ header ∈ headers, header.Writable)
    (written : data.HasAt 0 (opening.bytes count ++ headers.flatMap Header.bytes))
    (announced : headers.length ≤ count)
    {header : Header}
    (first : headers.find? (·.PastEnd data) = some header) :
    parse data = .error (.streamPastEnd header.name) := by
  rcases List.find?_eq_some_iff_append.1 first with ⟨past, before, after, rfl, inside⟩
  have more : ∃ later, count = before.length + (later + 1) := by
    rw [List.length_append, List.length_cons] at announced
    exact ⟨count - before.length - 1, by omega⟩
  rcases more with ⟨later, rfl⟩
  rcases hasAt_append.1 written with ⟨openingHere, headersHere⟩
  rw [List.flatMap_append, List.flatMap_cons, Nat.zero_add, hasAt_append,
    hasAt_append] at headersHere
  rcases headersHere with ⟨earlierHere, hereWritten, -⟩
  rw [List.forall_mem_append, List.forall_mem_cons] at writable
  have reached : ∀ earlier ∈ before,
      data.holds earlier.extent.start earlier.extent.size = true := by
    intro earlier member
    exact Header.holds_eq.2 (by simpa using inside earlier member)
  rw [parse_of_opening versionFits countFits openingHere,
    readExtents_of_written writable.1 reached earlierHere,
    writable.2.1.readExtents_eq hereWritten,
    if_neg fun reach => Header.holds_eq.1 reach (of_decide_eq_true past)]
  rfl

/--
A root that is written with some version, any padding behind it, and headers for streams
anywhere is read back.  Where every stream is inside the metadata, the version is the one that
was written, and each name stands where it came in first with the bytes of its last range;
otherwise the first stream that goes past the end is refused.
-/
theorem directory_read_back
    {version : String}
    {padding : Nat}
    (field : opening.version = Text.Utf8.encode version ++ List.replicate padding 0)
    (free : '\x00' ∉ version.toList)
    (versionFits : opening.version.length < 2 ^ 32)
    (countFits : count < 2 ^ 16)
    (writable : ∀ header ∈ headers, header.Writable)
    (written : data.HasAt 0 (opening.bytes count ++ headers.flatMap Header.bytes)) :
    (headers.length = count → (∀ header ∈ headers, ¬ header.PastEnd data) →
      ∃ root, parse data = .ok root ∧ root.version = version ∧
        root.streams.entries.map Prod.fst = (headers.map Header.name).eraseDups ∧
        ∀ before last after, headers = before ++ last :: after →
          last.name ∉ after.map Header.name →
            root.streams.get? last.name =
              some (data.slice last.extent.start last.extent.size)) ∧
    (headers.length ≤ count → ∀ header, headers.find? (·.PastEnd data) = some header →
      parse data = .error (.streamPastEnd header.name)) := by
  refine ⟨?_, fun announced header first =>
    parse_of_past_end versionFits countFits writable written announced first⟩
  rintro rfl inside
  refine ⟨_, parse_of_inside versionFits countFits writable written inside, ?_, ?_, ?_⟩
  · show Text.Utf8.decodeReplacing (untilZero opening.version) = version
    rw [field, untilZero_padded (Text.Utf8.zero_not_mem_encode free),
      Text.Utf8.decodeReplacing_encode]
  · rw [Dictionary.map_fst_map, Dictionary.map_fst_ofList, List.map_map]
    rfl
  · rintro before last after rfl alone
    have names : (after.map Header.entry).map Prod.fst = after.map Header.name := by
      rw [List.map_map]
      rfl
    rw [← names] at alone
    rw [Dictionary.get?_map, List.map_append, List.map_cons]
    exact congrArg (Option.map _) (Dictionary.get?_ofList _ _ alone)

end Directory

/-- An opening with the version `v1.4` and three bytes of padding. -/
def paddedOpening : Opening :=
  ⟨1, 1, 0, Text.Utf8.encode "v1.4" ++ List.replicate 3 0, 0⟩

/-- Names of all lengths but for a multiple of four, one of them twice, with ranges that overlap
each other and the headers. -/
def overlappingHeaders : List Header :=
  [⟨"a", ⟨0, 4⟩, [0, 0]⟩, ⟨"#~", ⟨2, 30⟩, [0]⟩, ⟨"", ⟨27, 0⟩, [1, 2, 3]⟩, ⟨"a", ⟨16, 4⟩, [0, 9]⟩,
    ⟨"abc", ⟨18, 6⟩, []⟩]

theorem directory_read_back_overlappingHeaders :
    let inside := (paddedOpening.bytes 5 ++ overlappingHeaders.flatMap Header.bytes).toArray
    let farther := overlappingHeaders ++ [⟨"far", ⟨9, 4096⟩, []⟩]
    let outside := (paddedOpening.bytes 9 ++ farther.flatMap Header.bytes).toArray
    (∃ root, parse inside = .ok root ∧ root.version = "v1.4" ∧
      root.streams.entries.map Prod.fst = ["a", "#~", "", "abc"] ∧
      root.streams.get? "a" = some (Text.Utf8.encode "v1.4").toArray) ∧
    parse outside = .error (.streamPastEnd "far") := by
  intro inside farther outside
  have free : '\x00' ∉ "v1.4".toList := by decide +kernel
  have fits : paddedOpening.version.length < 2 ^ 32 := by decide +kernel
  have insideRead := @directory_read_back inside paddedOpening overlappingHeaders 5 "v1.4" 3 rfl
    free fits (by decide) (by decide +kernel) (hasAt_self _)
  have outsideRead := @directory_read_back outside paddedOpening farther 9 "v1.4" 3 rfl
    free fits (by decide) (by decide +kernel) (hasAt_self _)
  constructor
  · rcases insideRead.1 rfl (by decide +kernel) with ⟨root, read, version, names, contents⟩
    have last := contents (overlappingHeaders.take 3) ⟨"a", ⟨16, 4⟩, [0, 9]⟩
      [⟨"abc", ⟨18, 6⟩, []⟩] rfl (by decide)
    exact ⟨root, read, version, names.trans (by decide +kernel), last.trans (by decide +kernel)⟩
  · exact outsideRead.2 (by decide) ⟨"far", ⟨9, 4096⟩, []⟩ (by decide +kernel)

end WinrtLint.Archive.Root
