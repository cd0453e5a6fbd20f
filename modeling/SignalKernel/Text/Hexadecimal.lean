/-!
# Hexadecimal text

Numbers in base sixteen, in the four layouts that reports use: bare digits, digits behind a `0x`
mark, and either of them filled up to the width of a field. `ofHexadecimal?` reads bare digits in
either case.
-/

namespace SignalKernel.Text

/-- The number in lower-case digits without leading zeros; zero is a single digit. -/
def hexadecimal (n : Nat) : String :=
  String.ofList (Nat.toDigits 16 n)

/-- The text at the right edge of a field, copies of `fill` before it. A text as wide as the field
or wider is left alone. -/
def padStart (width : Nat) (fill : Char) (text : String) : String :=
  String.ofList (List.replicate (width - text.length) fill) ++ text

/-- The number behind a `0x` mark. Zeros between the mark and the digits fill the field, whose
width counts the mark. -/
def markedHexadecimal (width n : Nat) : String :=
  "0x" ++ padStart (width - 2) '0' (hexadecimal n)

/-- The value of one digit, in either case. -/
def hexadecimalDigit? (c : Char) : Option Nat :=
  if '0' ≤ c ∧ c ≤ '9' then some (c.toNat - '0'.toNat)
  else if 'a' ≤ c ∧ c ≤ 'f' then some (c.toNat - 'a'.toNat + 10)
  else if 'A' ≤ c ∧ c ≤ 'F' then some (c.toNat - 'A'.toNat + 10)
  else none

/-- The number that a text of digits writes; a text with any other character, or with none at all,
is refused. -/
def ofHexadecimal? (text : String) : Option Nat :=
  if text.isEmpty then none
  else text.toList.foldlM (fun n c ↦ (n * 16 + ·) <$> hexadecimalDigit? c) 0

end SignalKernel.Text
