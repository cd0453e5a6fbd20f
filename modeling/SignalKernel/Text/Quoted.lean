import SignalKernel.Text.Hexadecimal
import SignalKernel.Text.Hidden

/-!
# Quoted text

A text in quotation marks shows every character so that a reader can tell it from all others. The
quotation mark and the backslash are written behind a backslash, and so are the usual controls by
their letters; any other hidden character is written by its number.
-/

namespace SignalKernel.Text

/-- One character inside quotation marks. -/
def escaped (c : Char) : String :=
  if c = '"' then "\\\""
  else if c = '\\' then "\\\\"
  else if c = '\n' then "\\n"
  else if c = '\r' then "\\r"
  else if c = '\t' then "\\t"
  else if c = '\x00' then "\\0"
  else if isHidden c then "\\u\x7b" ++ hexadecimal c.toNat ++ "\x7d"
  else c.toString

/-- The text in quotation marks. -/
def quoted (text : String) : String :=
  "\"" ++ String.join (text.toList.map escaped) ++ "\""

end SignalKernel.Text
