import WinrtLint.Files.Tree
import WinrtLint.Proofs.Text.Utf8

/-!
# What comes of reading a file

A path is no path of a file where it has a null character
(`Node.read_eq_nullCharacter`).  A file that can be read holds a text where its
bytes are those of one, and then it holds one only; a carriage return in it
counts as a line feed (`Node.readText_eq_ok`).
-/

namespace WinrtLint.Files

/-! ## Paths with a null character -/

/-- Whether a path has a null character. -/
def Path.HasNull (path : Path) : Prop :=
  '\x00' ∈ path.text.toList

instance (path : Path) : Decidable path.HasNull :=
  inferInstanceAs (Decidable ('\x00' ∈ path.text.toList))

/-- Following the parts of a path never comes upon a null character. -/
theorem Node.follow_ne_nullCharacter
    (above : List Node)
    (node : Node)
    (parts : List String) :
    follow above node parts ≠ .error .nullCharacter := by
  fun_induction follow above node parts with
  | case1 => simp
  | case2 => simp
  | case3 => simp
  | case4 => simp
  | case5 _ _ _ _ _ induction => exact induction
  | case6 => simp
  | case7 _ _ _ _ _ _ _ _ induction => exact induction

theorem Node.pathFault?_eq_nullCharacter {path : Path} :
    pathFault? path = some .nullCharacter ↔ path.HasNull := by
  rw [pathFault?, Path.HasNull, ← List.contains_iff_mem]
  cases path.text.toList.contains '\x00' with
  | true => simp
  | false =>
      simp only [Bool.false_eq_true, if_false, iff_false]
      repeat' split
      all_goals simp

/-- A file cannot be read for a null character exactly where its path has one. -/
theorem Node.read_eq_nullCharacter {files : Node} {path : Path} :
    files.read path = .error ⟨.nullCharacter, path⟩ ↔ path.HasNull := by
  rw [← pathFault?_eq_nullCharacter, read, at?]
  have walk := follow_ne_nullCharacter [] files path.parts
  cases pathFault? path with
  | some fault => simp
  | none =>
      simp only [reduceCtorEq, iff_false]
      split
      · simp
      · simp
      · rename_i fault failed
        intro same
        cases same
        exact walk failed

theorem Node.path_of_read
    {files : Node}
    {path : Path}
    {error : FileError}
    (failed : files.read path = .error error) :
    error.path = path := by
  rw [read] at failed
  split at failed <;> cases failed <;> rfl

/-- What is wrong with a path that has a null character is that, whatever is wrong besides. -/
theorem Node.fault_of_read
    {files : Node}
    {path : Path}
    {error : FileError}
    (failed : files.read path = .error error) :
    error.fault = .nullCharacter ↔ path.HasNull := by
  rcases error with ⟨fault, place⟩
  obtain rfl : place = path := path_of_read failed
  constructor
  · rintro rfl
    exact read_eq_nullCharacter.1 failed
  · intro null
    rw [read_eq_nullCharacter.2 null] at failed
    cases failed
    rfl

/-! ## Text files -/

section

variable {files : Node} {path : Path}

/-- The file at a path holds a text: its bytes are those of the text, but for the characters that
end its lines. -/
def Node.Holds (files : Node) (path : Path) (text : List Char) : Prop :=
  ∃ content, files.read path = .ok content ∧ ∃ characters,
    content.toList = Text.Utf8.encode (String.ofList characters) ∧
      Text.unifyLineFeeds characters = text

/-- The file at a path holds no text: its bytes are those of none. -/
def Node.HoldsNoText (files : Node) (path : Path) : Prop :=
  ∃ content, files.read path = .ok content ∧
    ∀ characters, content.toList ≠ Text.Utf8.encode (String.ofList characters)

theorem textOf?_eq_some {content : Bytes} {text : List Char} :
    textOf? content = some text ↔ ∃ characters,
      content.toList = Text.Utf8.encode (String.ofList characters) ∧
        Text.unifyLineFeeds characters = text := by
  rw [textOf?, Option.map_eq_some_iff]
  simp only [Text.Utf8.decode?_eq_some_iff]

theorem textOf?_eq_none {content : Bytes} :
    textOf? content = none ↔
      ∀ characters, content.toList ≠ Text.Utf8.encode (String.ofList characters) := by
  rw [textOf?, Option.map_eq_none_iff, Option.eq_none_iff_forall_ne_some]
  simp only [ne_eq, Text.Utf8.decode?_eq_some_iff]

theorem Node.readText_eq_file {error : FileError} :
    files.readText path = .error (.file error) ↔ files.read path = .error error := by
  rw [readText]
  cases files.read path with
  | error other => simp
  | ok content =>
      dsimp only
      cases textOf? content <;> simp

/-- The text of a file is read where it holds one. -/
theorem Node.readText_eq_ok {text : List Char} :
    files.readText path = .ok text ↔ files.Holds path text := by
  rw [readText, Holds]
  cases files.read path with
  | error error => simp
  | ok content =>
      simp only [Except.ok.injEq, exists_eq_left', ← textOf?_eq_some]
      cases textOf? content <;> simp

theorem Node.readText_eq_notText :
    files.readText path = .error .notText ↔ files.HoldsNoText path := by
  rw [readText, HoldsNoText]
  cases files.read path with
  | error error => simp
  | ok content =>
      simp only [Except.ok.injEq, exists_eq_left', ← textOf?_eq_none]
      cases textOf? content <;> simp

end

end WinrtLint.Files
