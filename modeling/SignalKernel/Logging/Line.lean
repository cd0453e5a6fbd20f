import SignalKernel.Logging.Level
import SignalKernel.Text.Hexadecimal

/-!
# Lines of the log

A record is written as one line, fragment by fragment, and a line has at most 256 bytes. Bytes
beyond those are dropped wherever they fall, so the last character kept may be cut; the text of the
line leaves a cut character out.
-/

namespace SignalKernel

open SignalKernel.Text

/-- What is to be logged: how important it is, which part of the kernel says it, and what. -/
structure Record where
  level : Level
  target : String
  message : String
deriving DecidableEq

/-- The longest text that the first `count` bytes or fewer of them encode. -/
def longestText (bytes : ByteArray) : (count : Nat) → String
  | 0 => ""
  | count + 1 =>
      match String.fromUTF8? (bytes.extract 0 (count + 1)) with
      | some text => text
      | none => longestText bytes count

/-- Bytes are read as a text exactly if they encode it. -/
theorem fromUTF8?_eq_some_iff {bytes : ByteArray} {text : String} :
    String.fromUTF8? bytes = some text ↔ bytes = text.toByteArray := by
  rw [String.fromUTF8?]
  constructor
  case mp =>
    intro h
    split at h
    · cases h
      rfl
    · cases h
  case mpr =>
    rintro rfl
    rw [dif_pos text.isValidUTF8]
    rfl

/-- A line that is being written, as the bytes it has so far. -/
structure Line where
  bytes : ByteArray := .empty

namespace Line

/-- The most bytes that a line has. -/
def capacity : Nat := 256

/-- Add a fragment, as many of its bytes as there is room for. -/
def write (line : Line) (fragment : String) : Line :=
  let kept := min fragment.utf8ByteSize (capacity - line.bytes.size)
  ⟨line.bytes ++ fragment.toUTF8.extract 0 kept⟩

/-- Add fragments one after the other. -/
def writeAll (line : Line) (fragments : List String) : Line :=
  fragments.foldl write line

/-- The text of the line, without a character that was cut. -/
def text (line : Line) : String :=
  longestText line.bytes line.bytes.size

end Line

namespace Record

/-- The fragments of the record's line: the level at the right edge of five places and between
brackets, the target, the message, and the end of the line. -/
def fragments (record : Record) : List String :=
  ["[", padStart 5 ' ' record.level.name, "] ", record.target, ": ", record.message, "\n"]

/-- The record's line. -/
def line (record : Record) : String :=
  (({} : Line).writeAll record.fragments).text

end Record

end SignalKernel
