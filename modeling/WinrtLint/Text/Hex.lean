/-!
# Hexadecimal numbers

Messages show addresses and signatures in base sixteen, in lower case and
behind `0x`.
-/

namespace WinrtLint.Text.Hex

/-- The digits of a number, at least `width` of them. -/
def digits (width value : Nat) : String :=
  let shown := Nat.toDigits 16 value
  String.ofList (List.replicate (width - shown.length) '0' ++ shown)

/-- A number in hexadecimal. -/
def ofNat (value : Nat) : String :=
  "0x" ++ digits 1 value

/-- The number of a table or a byte in hexadecimal, in two digits or more. -/
def ofTable (value : Nat) : String :=
  "0x" ++ digits 2 value

/-- A possibly negative number in hexadecimal. -/
def ofInt : Int → String
  | .ofNat value => ofNat value
  | .negSucc value => "-" ++ ofNat (value + 1)

end WinrtLint.Text.Hex
