import WinrtLint.Text.Lines

/-!
# Warnings

What goes wrong without stopping a run is told in a line of its own.
-/

namespace WinrtLint

/-- A warning and the part of the program that gives it. -/
structure Warning where
  source : String
  text : String
  deriving DecidableEq, Repr

/-- The line of a warning. -/
def Warning.line (warning : Warning) : String :=
  "[" ++ warning.source ++ "] Warning: " ++ warning.text

/-- The lines that warnings take up: a line feed in a text divides it, empty lines are none. -/
def Warning.linesOf (warnings : List Warning) : List String :=
  warnings.flatMap fun warning =>
    ((Text.feedLines warning.line.toList).filter (!·.isEmpty)).map String.ofList

end WinrtLint
