import SignalKernel.SignalSet.Members
import SignalKernel.Text.Display
import SignalKernel.Text.Hexadecimal

/-!
# Sets of signals written out

A set is shown either as its members between braces or as its word in hexadecimal.
-/

namespace SignalKernel.SignalSet

open SignalKernel.Text

/-- The members between braces, in decimal digits. -/
def display (s : SignalSet) : Display :=
  .group (s.toList.map .number)

/-- The members between braces, in hexadecimal digits. -/
def displayHexadecimal (s : SignalSet) : Display :=
  .group (s.toList.map fun signal ↦ .text (hexadecimal signal))

/-- The word in hexadecimal digits. -/
def hexadecimal (s : SignalSet) : String :=
  Text.hexadecimal s.bits.toNat

/-- The word in the five layouts of a register dump: bare, marked, filled with zeros to 16 places,
marked and filled to 8 places, and at the right edge of 20 places. -/
def dump (s : SignalSet) : List String :=
  [s.hexadecimal, markedHexadecimal 0 s.bits.toNat, padStart 16 '0' s.hexadecimal,
    markedHexadecimal 8 s.bits.toNat, padStart 20 ' ' s.hexadecimal]

/-- A traversal written out by its word. -/
def Cursor.display (c : Cursor) : Display :=
  .record "SigSetIter" [("remaining", .number c.remaining.bits.toNat)]

end SignalKernel.SignalSet
