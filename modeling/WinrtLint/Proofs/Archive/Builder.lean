import WinrtLint.Proofs.Archive.Contents

/-!
# Building archives

A builder gathers rows and strings call by call.  A string is added to the heap
when it is first needed and found there afterwards, so the rows of earlier
calls stay good while the heap grows.  What holds of a builder after any calls
is that its rows stand for what the calls ask for (`holds_build`).
-/

namespace WinrtLint.Archive

open WinrtLint.Bytes
open WinrtLint.Text

/-! ## The builder -/

/-- What can be asked of a builder. -/
inductive BuilderCall where
  /-- Refer to a type of another archive. -/
  | typeRef (space name : String)
  /-- Define a type with its methods. -/
  | typeDef
      (base : Option Nat)
      (space name : String)
      (flags : TypeFlags)
      (methods : List MethodDefinition)
  deriving DecidableEq, Repr

/-- An archive that is being built. -/
structure Builder where
  /-- The bytes of the heap of strings. -/
  heap : List UInt8
  /-- Where each string of the heap begins. -/
  offsets : Dictionary String Nat
  typeRefs : List Row
  typeDefs : List Row
  methods : List Row
  deriving DecidableEq

namespace Builder

/-- Add a string to the heap unless it is there. -/
def intern (builder : Builder) (text : String) : Builder :=
  match builder.offsets.get? text with
  | some _ => builder
  | none =>
      { builder with
        heap := builder.heap ++ (Utf8.encode text ++ [0])
        offsets := builder.offsets.insert text builder.heap.length }

/-- Where a string of the heap begins. -/
def offset (builder : Builder) (text : String) : Nat :=
  (builder.offsets.get? text).getD 0

/-- The first row of the assemblies to which an archive refers, as a scope. -/
def assemblyScope : Nat :=
  CodedIndex.resolutionScope.encode 2 1

/-- Refer to a type of another archive. -/
def addReference (builder : Builder) (space name : String) : Builder :=
  let next := (builder.intern name).intern space
  { next with
    typeRefs := next.typeRefs ++ [[assemblyScope, next.offset name, next.offset space]] }

/-- Add a method to those of all types. -/
def addMethod (builder : Builder) (method : MethodDefinition) : Builder :=
  let next := builder.intern method.name
  { next with
    methods := next.methods ++ [[0, 0, method.flags, next.offset method.name, 0, 1]] }

/-- Define a type: first come its methods, which begin behind those that are there. -/
def addType
    (builder : Builder)
    (base : Option Nat)
    (space name : String)
    (flags : TypeFlags)
    (methods : List MethodDefinition) :
    Builder :=
  let next := ((methods.foldl addMethod builder).intern name).intern space
  { next with
    typeDefs := next.typeDefs ++
      [[flags, next.offset name, next.offset space, base.getD 0, 1,
        builder.methods.length + 1]] }

/-- The name of the module. -/
def moduleName : String :=
  "Contract.winmd"

/-- The builder before any call: it has the module's name and the type for what belongs to no
type. -/
def initial : Builder :=
  (Builder.intern ⟨[0], Dictionary.ofList [("", 0)], [], [], []⟩ moduleName).addType
    none "" "<Module>" 1 []

/-- Do what a call asks for. -/
def perform (builder : Builder) : BuilderCall → Builder
  | .typeRef space name => builder.addReference space name
  | .typeDef base space name flags methods => builder.addType base space name flags methods

/-- Do what calls ask for, one after another. -/
def build (calls : List BuilderCall) : Builder :=
  calls.foldl perform initial

end Builder

/-- The type to which a call refers. -/
def BuilderCall.reference? : BuilderCall → Option TypeName
  | .typeRef space name => some ⟨space, name⟩
  | .typeDef _ _ _ _ _ => none

/-- The type that a call defines; no base type is the reference zero. -/
def BuilderCall.type? : BuilderCall → Option TypeContents
  | .typeRef _ _ => none
  | .typeDef base space name flags methods =>
      some ⟨space, name, flags, base.getD 0, methods⟩

/-- What calls ask for, with the type that every archive has. -/
def Contents.ofCalls (calls : List BuilderCall) : Contents where
  references := calls.filterMap BuilderCall.reference?
  types := ⟨"", "<Module>", 1, 0, []⟩ :: calls.filterMap BuilderCall.type?

/-! ## Strings of a growing heap -/

/-- Whether a text stands at an offset of a heap: the empty one at zero, any other one as its
bytes with a zero byte behind them. -/
def StringAt (heap : List UInt8) (offset : Nat) (text : String) : Prop :=
  if text = "" then offset = 0
  else 0 < offset ∧ HasAt heap.toArray offset (Utf8.encode text ++ [0])

/-- A text stays where it is when the heap grows. -/
theorem StringAt.append
    {heap : List UInt8}
    {offset : Nat}
    {text : String}
    (here : StringAt heap offset text)
    (more : List UInt8) :
    StringAt (heap ++ more) offset text := by
  rw [StringAt] at here ⊢
  split
  · rwa [if_pos ‹_›] at here
  · rw [if_neg ‹_›] at here
    refine ⟨here.1, ?_⟩
    rw [← List.append_toArray]
    exact here.2.append more.toArray

/-- Rows stand for the same items when more is known of each. -/
theorem StandFor.mono
    {Item : Type}
    {related other : List Item → Item → Row → Prop}
    {items : List Item}
    {rows : List Row}
    (stand : StandFor related items rows)
    (weaker : ∀ before, ∀ item ∈ items, ∀ row, related before item row → other before item row) :
    StandFor other items rows where
  length_eq := stand.length_eq
  each := by
    intro index item found
    rcases stand.each found with ⟨row, there, holds⟩
    exact ⟨row, there, weaker _ item (List.mem_of_getElem? found) row holds⟩

theorem StandFor.snoc
    {Item : Type}
    {related : List Item → Item → Row → Prop}
    {items : List Item}
    {rows : List Row}
    (stand : StandFor related items rows)
    {item : Item}
    {row : Row}
    (last : related items item row) :
    StandFor related (items ++ [item]) (rows ++ [row]) where
  length_eq := by simp [stand.length_eq]
  each := by
    intro index found same
    have length_eq := stand.length_eq
    by_cases inside : index < items.length
    · rw [List.getElem?_append_left inside] at same
      rcases stand.each same with ⟨foundRow, there, holds⟩
      refine ⟨foundRow, ?_, ?_⟩
      · rwa [List.getElem?_append_left (by omega)]
      · rwa [List.take_append_of_le_length (Nat.le_of_lt inside)]
    · have bound := (List.getElem?_eq_some_iff.1 same).1
      rw [List.length_append, List.length_singleton] at bound
      have place : index = items.length := by omega
      subst place
      rw [List.getElem?_append_right (Nat.le_refl _), Nat.sub_self] at same
      cases same
      refine ⟨row, ?_, ?_⟩
      · rw [List.getElem?_append_right (by omega), ← length_eq, Nat.sub_self]
        rfl
      · rwa [List.take_left]

namespace Builder

/-! ## What holds of a builder -/

/-- Whether the heap has the strings that it is said to have, and the rows stand for items. -/
structure Holds
    (builder : Builder)
    (references : List TypeName)
    (types : List TypeContents)
    (methods : List MethodDefinition) : Prop where
  heap_ne_nil : builder.heap ≠ []
  empty_known : builder.offsets.get? "" = some 0
  stringAt : ∀ {text : String} {offset : Nat}, builder.offsets.get? text = some offset →
    StringAt builder.heap offset text
  typeRefs : StandFor (ReferenceRow (StringAt builder.heap)) references builder.typeRefs
  typeDefs : StandFor (TypeRow (StringAt builder.heap)) types builder.typeDefs
  methods : StandFor (MethodRow (StringAt builder.heap)) methods builder.methods

variable
    {builder : Builder}
    {references : List TypeName}
    {types : List TypeContents}
    {methods : List MethodDefinition}
    {text : String}

/-- Whether a string has been added to the heap. -/
def Knows (builder : Builder) (text : String) : Prop :=
  ∃ offset, builder.offsets.get? text = some offset

theorem Holds.stringAt_offset
    (holds : builder.Holds references types methods)
    (known : builder.Knows text) :
    StringAt builder.heap (builder.offset text) text := by
  rcases known with ⟨offset, found⟩
  rw [Builder.offset, found]
  exact holds.stringAt found

theorem intern_of_knows (known : builder.Knows text) :
    builder.intern text = builder := by
  rcases known with ⟨offset, found⟩
  rw [intern, found]

theorem intern_of_get?_eq_none (unknown : builder.offsets.get? text = none) :
    builder.intern text =
      { builder with
        heap := builder.heap ++ (Utf8.encode text ++ [0])
        offsets := builder.offsets.insert text builder.heap.length } := by
  rw [intern, unknown]

theorem knows_intern (builder : Builder) (text : String) :
    (builder.intern text).Knows text := by
  cases found : builder.offsets.get? text with
  | some offset =>
      rw [intern_of_knows ⟨offset, found⟩]
      exact ⟨offset, found⟩
  | none =>
      rw [intern_of_get?_eq_none found]
      exact ⟨builder.heap.length, by simp [Dictionary.get?_insert]⟩

theorem Knows.intern (known : builder.Knows text) (other : String) :
    (builder.intern other).Knows text := by
  cases found : builder.offsets.get? other with
  | some offset => rwa [intern_of_knows ⟨offset, found⟩]
  | none =>
      rcases known with ⟨offset, there⟩
      rw [intern_of_get?_eq_none found]
      by_cases same : other = text
      · exact ⟨builder.heap.length, by simp [Dictionary.get?_insert, same]⟩
      · exact ⟨offset, by simpa [Dictionary.get?_insert, same] using there⟩

/-- Rows stay good when the heap grows. -/
theorem Holds.grow
    (holds : builder.Holds references types methods)
    {more : List UInt8}
    {offsets : Dictionary String Nat}
    (empty_known : offsets.get? "" = some 0)
    (stringAt : ∀ {text : String} {offset : Nat}, offsets.get? text = some offset →
      StringAt (builder.heap ++ more) offset text) :
    Holds { builder with heap := builder.heap ++ more, offsets } references types methods where
  heap_ne_nil := List.append_ne_nil_of_left_ne_nil holds.heap_ne_nil more
  empty_known := empty_known
  stringAt := stringAt
  typeRefs := holds.typeRefs.mono fun _ _ _ _ refers =>
    ⟨refers.1.append more, refers.2.append more⟩
  typeDefs := holds.typeDefs.mono fun _ _ _ _ defines =>
    { defines with name := defines.name.append more, space := defines.space.append more }
  methods := holds.methods.mono fun _ _ _ _ defines => ⟨defines.1, defines.2.append more⟩

/-- A string that is added is found where the heap ended, and the others where they were. -/
theorem Holds.intern
    (holds : builder.Holds references types methods)
    (text : String) :
    (builder.intern text).Holds references types methods := by
  cases found : builder.offsets.get? text with
  | some offset => rwa [intern_of_knows ⟨offset, found⟩]
  | none =>
      have nonempty : text ≠ "" := by
        rintro rfl
        rw [holds.empty_known] at found
        cases found
      have here :
          StringAt (builder.heap ++ (Utf8.encode text ++ [0])) builder.heap.length text := by
        rw [StringAt, if_neg nonempty]
        refine ⟨List.length_pos_iff.2 holds.heap_ne_nil, ?_⟩
        have whole := hasAt_self (builder.heap ++ (Utf8.encode text ++ [0]))
        rw [hasAt_append, Nat.zero_add] at whole
        exact whole.2
      rw [intern_of_get?_eq_none found]
      apply holds.grow
      · rw [Dictionary.get?_insert, if_neg nonempty, holds.empty_known]
      · intro other offset there
        rw [Dictionary.get?_insert] at there
        split at there
        · rename_i same
          cases there
          exact same ▸ here
        · exact (holds.stringAt there).append _

/-! ## Calls -/

theorem Holds.internName
    (holds : builder.Holds references types methods)
    (space name : String) :
    let next := (builder.intern name).intern space
    next.Holds references types methods ∧
      StringAt next.heap (next.offset name) name ∧
      StringAt next.heap (next.offset space) space := by
  have next := (holds.intern name).intern space
  exact ⟨next, next.stringAt_offset ((builder.knows_intern name).intern space),
    next.stringAt_offset ((builder.intern name).knows_intern space)⟩

theorem Holds.addReference
    (holds : builder.Holds references types methods)
    (space name : String) :
    (builder.addReference space name).Holds (references ++ [⟨space, name⟩]) types methods := by
  rcases holds.internName space name with ⟨next, nameHere, spaceHere⟩
  exact { next with typeRefs := next.typeRefs.snoc ⟨nameHere, spaceHere⟩ }

theorem Holds.addMethod
    (holds : builder.Holds references types methods)
    (method : MethodDefinition) :
    (builder.addMethod method).Holds references types (methods ++ [method]) := by
  have next := holds.intern method.name
  have known := builder.knows_intern method.name
  exact { next with methods := next.methods.snoc ⟨rfl, next.stringAt_offset known⟩ }

theorem Holds.addMethods
    (holds : builder.Holds references types methods)
    (added : List MethodDefinition) :
    (added.foldl Builder.addMethod builder).Holds references types (methods ++ added) := by
  induction added generalizing builder methods with
  | nil => rwa [List.append_nil]
  | cons method rest induction =>
      rw [← List.singleton_append, ← List.append_assoc]
      exact induction (holds.addMethod method)

/-- A type is defined where all methods are those of the types before it. -/
theorem Holds.addType
    (holds : builder.Holds references types (types.flatMap (·.methods)))
    (type : TypeContents)
    {base : Option Nat}
    (based : base.getD 0 = type.base) :
    (builder.addType base type.space type.name type.flags type.methods).Holds references
      (types ++ [type]) ((types ++ [type]).flatMap (·.methods)) := by
  rcases (holds.addMethods type.methods).internName type.space type.name with
    ⟨next, nameHere, spaceHere⟩
  rw [List.flatMap_append, List.flatMap_singleton]
  refine { next with typeDefs := next.typeDefs.snoc ?_ }
  exact {
    flags := rfl
    name := nameHere
    space := spaceHere
    base := based
    firstMethod := congrArg (· + 1) holds.methods.length_eq }

theorem Holds.perform
    (holds : builder.Holds references types (types.flatMap (·.methods)))
    (call : BuilderCall) :
    (builder.perform call).Holds (references ++ call.reference?.toList)
      (types ++ call.type?.toList) ((types ++ call.type?.toList).flatMap (·.methods)) := by
  cases call with
  | typeRef space name =>
      simp only [BuilderCall.reference?, BuilderCall.type?, Option.toList_some,
        Option.toList_none, List.append_nil]
      exact holds.addReference space name
  | typeDef base space name flags methods =>
      simp only [BuilderCall.reference?, BuilderCall.type?, Option.toList_some,
        Option.toList_none, List.append_nil]
      exact holds.addType ⟨space, name, flags, base.getD 0, methods⟩ rfl

theorem Holds.run
    (holds : builder.Holds references types (types.flatMap (·.methods)))
    (calls : List BuilderCall) :
    (calls.foldl Builder.perform builder).Holds
      (references ++ calls.filterMap BuilderCall.reference?)
      (types ++ calls.filterMap BuilderCall.type?)
      ((types ++ calls.filterMap BuilderCall.type?).flatMap (·.methods)) := by
  induction calls generalizing builder references types with
  | nil => simpa using holds
  | cons call rest induction =>
      have later := induction (holds.perform call)
      have order : ∀ {Item : Type} (choose : BuilderCall → Option Item) (before : List Item),
          before ++ (call :: rest).filterMap choose =
            before ++ (choose call).toList ++ rest.filterMap choose := by
        intro Item choose before
        rw [List.filterMap_cons]
        cases choose call <;> simp
      rwa [List.foldl_cons, order, order]

theorem holds_empty :
    Holds ⟨[0], Dictionary.ofList [("", 0)], [], [], []⟩ [] [] [] where
  heap_ne_nil := List.cons_ne_nil 0 []
  empty_known := rfl
  stringAt := by
    intro text offset found
    have entry : Dictionary.get? (Dictionary.empty.insert "" 0) text = some offset := found
    rw [Dictionary.get?_insert] at entry
    split at entry
    · rename_i same
      cases entry
      rw [StringAt, if_pos same.symm]
    · cases entry
  typeRefs := ⟨rfl, by simp⟩
  typeDefs := ⟨rfl, by simp⟩
  methods := ⟨rfl, by simp⟩

/-- After any calls the rows of a builder stand for what the calls ask for. -/
theorem holds_build (calls : List BuilderCall) :
    (build calls).Holds (Contents.ofCalls calls).references (Contents.ofCalls calls).types
      (Contents.ofCalls calls).methods := by
  have start := (holds_empty.intern moduleName).addType
    ⟨"", "<Module>", 1, 0, []⟩ (show (none : Option Nat).getD 0 = 0 from rfl)
  exact start.run calls

end Builder

end WinrtLint.Archive
