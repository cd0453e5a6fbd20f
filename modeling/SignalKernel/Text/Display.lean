/-!
# Values written out for a reader

A value is shown in two ways: `compact`, on one line, and `indented`, with every part of it on a
line of its own, four blanks deeper than the value around it and followed by a comma. The
constructors here build both ways at once, so that they always show the same parts.
-/

namespace SignalKernel.Text

/-- A value's text on one line and its text over several. -/
structure Display where
  compact : String
  lines : List String

namespace Display

/-- The text over several lines. -/
def indented (d : Display) : String :=
  "\n".intercalate d.lines

/-- A value without parts. -/
def text (s : String) : Display :=
  ⟨s, [s]⟩

/-- A number in decimal digits. -/
def number (n : Nat) : Display :=
  text (toString n)

/-- The comma goes behind the last line. -/
def withComma : List String → List String
  | [] => []
  | [last] => [last ++ ","]
  | line :: rest => line :: withComma rest

/-- A part on lines of its own: its label before the first line, a comma behind the last, and four
blanks before each. -/
def part (label : String) (d : Display) : List String :=
  let labelled := match d.lines with
    | [] => [label]
    | first :: rest => (label ++ first) :: rest
  (withComma labelled).map ("    " ++ ·)

/-- A value inside a named wrapper, as in `Some(4)`. -/
def wrapped (name : String) (d : Display) : Display where
  compact := name ++ "(" ++ d.compact ++ ")"
  lines := (name ++ "(") :: part "" d ++ [")"]

/-- A value that may be absent. -/
def optional : Option Display → Display
  | none => text "None"
  | some d => wrapped "Some" d

/-- A named value with labelled parts. -/
def record (name : String) (fields : List (String × Display)) : Display where
  compact :=
    name ++ " \x7b " ++ ", ".intercalate (fields.map fun (label, d) ↦ label ++ ": " ++ d.compact)
      ++ " \x7d"
  lines :=
    (name ++ " \x7b") :: fields.flatMap (fun (label, d) ↦ part (label ++ ": ") d) ++ ["\x7d"]

/-- Values between braces. With none of them the braces close on the line that opens them. -/
def group (items : List Display) : Display where
  compact := "\x7b" ++ ", ".intercalate (items.map compact) ++ "\x7d"
  lines := if items.isEmpty then ["\x7b\x7d"] else "\x7b" :: items.flatMap (part "") ++ ["\x7d"]

end Display

end SignalKernel.Text
