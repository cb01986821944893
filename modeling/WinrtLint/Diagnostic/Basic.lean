import WinrtLint.Symbol
import WinrtLint.Text.Template

/-!
# Rules and diagnostics

A rule describes a kind of finding; a diagnostic is one finding under a rule,
at a location and with the arguments of the rule's message.
-/

namespace WinrtLint

/-- How serious a finding is. -/
inductive Severity where
  | hidden
  | info
  | warning
  | error
  deriving DecidableEq, Repr

/-- The word for a severity. -/
def Severity.word : Severity → String
  | .hidden => "hidden"
  | .info => "info"
  | .warning => "warning"
  | .error => "error"

/-- The severity that a word stands for. -/
def Severity.ofWord? : String → Option Severity
  | "hidden" => some .hidden
  | "info" => some .info
  | "warning" => some .warning
  | "error" => some .error
  | _ => none

/-- A kind of finding. -/
structure Rule where
  id : String
  title : String
  /-- The template of the message. -/
  messageTemplate : String
  category : String
  severity : Severity
  isEnabled : Bool := true
  deriving DecidableEq, Repr

/-- The rule against types that only Universal Windows apps can use. -/
def Rule.appOnly : Rule where
  id := "UWP003"
  title := "UWP-only"
  messageTemplate :=
    "Type '\x7b0\x7d' can only be used in UWP apps, not Desktop or Centennial"
  category := "Safety"
  severity := .warning

/-- One finding. -/
structure Diagnostic where
  rule : Rule
  location : Location
  arguments : List String
  deriving DecidableEq, Repr

namespace Diagnostic

/-- The rule's message with the arguments filled in. -/
def message (diagnostic : Diagnostic) : Except Text.Template.Fault String :=
  Text.Template.render diagnostic.rule.messageTemplate diagnostic.arguments

/-- The line that a compiler would print for the finding. -/
def text (diagnostic : Diagnostic) : Except Text.Template.Fault String := do
  let message ← diagnostic.message
  return diagnostic.location.text ++ ": " ++ diagnostic.rule.severity.word ++ " " ++
    diagnostic.rule.id ++ ": " ++ message

end Diagnostic

end WinrtLint
