import PayChannel.Decimal

/-!
# TOML: lines as they are written

A text is written between double quotes and holds no character that needs an escape; a number is
written without a sign, and only if it fits 64 bits with one.
-/

namespace PayChannel.Toml

/-- a line that gives a key a text -/
def textLine (key value : String) : String :=
  key ++ " = \"" ++ value ++ "\"\n"

/-- a line that gives a key a number, if the number fits -/
def numberLine? (key : String) (n : Nat) : Option String :=
  if n < Nat.pow 2 63 then some (key ++ " = " ++ Decimal.text n ++ "\n") else none

end PayChannel.Toml
