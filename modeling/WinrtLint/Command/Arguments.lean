import WinrtLint.Files.Path
import WinrtLint.Text.Numeral

/-!
# Arguments

The words of a command line are options and operands.  An option is known by
a long name behind two dashes and perhaps by a letter behind one; letters may
be put together.  A value stands in the same word or is the next word,
whatever that looks like.  Two dashes alone end the options.
-/

namespace WinrtLint.Command

/-- An option that a command knows. -/
structure Flag where
  /-- The name behind two dashes. -/
  name : String
  /-- The letter behind one dash. -/
  letter : Option Char := none
  takesValue : Bool := false
  deriving DecidableEq, Repr

/-- The words are no correct call of the program. -/
inductive UsageError where
  | usageError
  deriving DecidableEq, Repr

/-- The options given, in order and with their values, and the operands. -/
structure Words where
  options : List (String × String) := []
  operands : List String := []
  deriving DecidableEq, Repr

namespace Words

/-- Words with an operand more in front. -/
def withOperand (words : Words) (operand : String) : Words :=
  { words with operands := operand :: words.operands }

/-- Whether an option was given. -/
def has (words : Words) (name : String) : Bool :=
  words.options.any fun option => option.1 = name

/-- The values of an option in order. -/
def values (words : Words) (name : String) : List String :=
  (words.options.filter fun option => option.1 = name).map (·.2)

/-- The value of an option that counts: the last one. -/
def value? (words : Words) (name : String) : Option String :=
  (words.values name).getLast?

end Words

/-- The outcome of reading a word of options: complete, or in want of a value. -/
inductive OptionWord where
  | complete (options : List (String × String))
  | wanting (options : List (String × String)) (name : String)
  deriving DecidableEq, Repr

/-- Read the letters behind a dash. -/
def readLetters (flags : List Flag) : List Char → Except UsageError OptionWord
  | [] => .ok (.complete [])
  | letter :: rest =>
      match flags.find? fun flag => flag.letter = some letter with
      | none => .error .usageError
      | some flag =>
          if flag.takesValue then
            if rest.isEmpty then .ok (.wanting [] flag.name)
            else .ok (.complete [(flag.name, String.ofList rest)])
          else do
            match ← readLetters flags rest with
            | .complete options => return .complete ((flag.name, "") :: options)
            | .wanting options name => return .wanting ((flag.name, "") :: options) name

/-- Read what stands behind two dashes. -/
def readLong (flags : List Flag) (word : List Char) :
    Except UsageError OptionWord :=
  let (name, value) := Text.cutFirst '=' word
  match flags.find? fun flag => flag.name.toList = name with
  | none => .error .usageError
  | some flag =>
      match flag.takesValue, value with
      | true, some value => .ok (.complete [(flag.name, String.ofList value)])
      | true, none => .ok (.wanting [] flag.name)
      | false, some _ => .error .usageError
      | false, none => .ok (.complete [(flag.name, "")])

/-- Read words; where `mixed` is not set, the first operand ends the options. -/
def readWords (flags : List Flag) (mixed : Bool) :
    List String → Except UsageError Words
  | [] => .ok {}
  | word :: rest =>
      let given :=
        match word.toList with
        | ['-', '-'] => none
        | '-' :: '-' :: name => some (readLong flags name)
        | '-' :: letter :: letters => some (readLetters flags (letter :: letters))
        | _ => none
      match given with
      | some (.error fault) => .error fault
      | some (.ok (.complete options)) => do
          let words ← readWords flags mixed rest
          return { words with options := options ++ words.options }
      | some (.ok (.wanting options name)) =>
          match rest with
          | [] => .error .usageError
          | value :: rest => do
              let words ← readWords flags mixed rest
              return { words with options := options ++ (name, value) :: words.options }
      | none =>
          if word = "--" then .ok { operands := rest }
          else if mixed then do
            let words ← readWords flags mixed rest
            return words.withOperand word
          else .ok { operands := word :: rest }

/-- What to scan and how. -/
structure ScanRequest where
  paths : List Files.Path
  catalog : Option Files.Path := none
  denylists : List Files.Path := []
  /-- How many files may be scanned at once. -/
  jobs : Nat := 1
  /-- Whether findings are shown as lines instead of a table. -/
  asLines : Bool := false
  deriving DecidableEq, Repr

/-- A call of the program. -/
inductive Request where
  /-- Show the members of the forbidden classes. -/
  | extract
  /-- Write a catalog of the kits. -/
  | catalog (output : Files.Path)
  | scan (request : ScanRequest)
  /-- Count the entries of the denylist. -/
  | stats (denylists : List Files.Path)
  /-- Look a name up in the denylist. -/
  | check (name : String) (denylists : List Files.Path)
  | version
  | help
  deriving DecidableEq, Repr

namespace Request

/-- The option that asks for help. -/
def helpFlag : Flag where
  name := "help"

/-- The option for denylist files beside the curated list. -/
def denylistFlag : Flag where
  name := "denylist"
  letter := some 'd'
  takesValue := true

/-- The options of a scan. -/
def scanFlags : List Flag :=
  [helpFlag, denylistFlag,
    { name := "catalog", letter := some 'c', takesValue := true },
    { name := "jobs", letter := some 'j', takesValue := true },
    { name := "plain" }]

/-- The path that a word spells; it has no null character. -/
def pathOf (word : String) : Except UsageError Files.Path :=
  if word.toList.contains '\x00' then .error .usageError else .ok (.ofString word)

/-- The denylist files given. -/
def denylists (words : Words) : Except UsageError (List Files.Path) :=
  (words.values denylistFlag.name).mapM pathOf

/-- The number of jobs given, one or more. -/
def jobs (words : Words) : Except UsageError Nat :=
  match words.value? "jobs" with
  | none => .ok 1
  | some text =>
      match Text.positive? text.toList with
      | some count => .ok count
      | none => .error .usageError

/-- The request of a scan's words. -/
def ofScan (words : Words) : Except UsageError Request := do
  if words.operands.isEmpty then throw .usageError
  return .scan {
    paths := ← words.operands.mapM pathOf
    catalog := ← (words.value? "catalog").mapM pathOf
    denylists := ← denylists words
    jobs := ← jobs words
    asLines := words.has "plain" }

/-- Read the words behind a command's name; help comes before everything else. -/
def behind
    (flags : List Flag)
    (arguments : List String)
    (build : Words → Except UsageError Request) :
    Except UsageError Request := do
  let words ← readWords flags true arguments
  if words.has helpFlag.name then return .help else build words

/-- A command without operands. -/
def bare (request : Request) (words : Words) : Except UsageError Request :=
  if words.operands.isEmpty then .ok request else .error .usageError

/-- Read a group of commands: its options, then the name of a command and its words. -/
def inGroup
    (arguments : List String)
    (choose : String → List String → Except UsageError Request) :
    Except UsageError Request := do
  let words ← readWords [helpFlag] false arguments
  if words.has helpFlag.name then return .help
  else
    match words.operands with
    | [] => throw .usageError
    | name :: rest => choose name rest

/-- Read a command about the denylist. -/
def ofDenylist (name : String) (arguments : List String) :
    Except UsageError Request :=
  match name with
  | "stats" =>
      behind [helpFlag, denylistFlag] arguments fun words => do
        bare (.stats (← denylists words)) words
  | "check" =>
      behind [helpFlag, denylistFlag] arguments fun words => do
        let paths ← denylists words
        match words.operands with
        | [name] => return .check name paths
        | _ => throw .usageError
  | _ => .error .usageError

/-- Read a command. -/
def ofCommand (name : String) (arguments : List String) :
    Except UsageError Request :=
  match name with
  | "extract" => behind [helpFlag] arguments (bare .extract)
  | "catalog" =>
      behind [helpFlag] arguments fun words =>
        match words.operands with
        | [output] => (pathOf output).map .catalog
        | _ => .error .usageError
  | "scan" => behind scanFlags arguments ofScan
  | "denylist" => inGroup arguments ofDenylist
  | "version" => behind [helpFlag] arguments (bare .version)
  | _ => .error .usageError

/-- The request that the words of a command line make. -/
def parse (arguments : List String) : Except UsageError Request :=
  inGroup arguments ofCommand

end Request

end WinrtLint.Command
