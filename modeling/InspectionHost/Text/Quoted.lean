import InspectionHost.Text.Hex
import InspectionHost.Text.Unprintable

/-!
# Quoted text in structure dumps

The dump of a value shows a text between double quotes. Quotes and backslashes are escaped,
NUL, tab, line feed and carriage return have short escapes, and every other unprintable
character is written as its code point in lower-case hexadecimal digits between braces.

## Main definitions

* `escapeChar` : how one character is written.
* `quote` : a text between double quotes.
-/

namespace InspectionHost.Text.Quoted

/-- One character inside a quoted text. -/
def escapeChar (c : Char) : List Char :=
  if c = '\x00' then ['\\', '0']
  else if c = '\t' then ['\\', 't']
  else if c = '\n' then ['\\', 'n']
  else if c = '\r' then ['\\', 'r']
  else if c = '"' then ['\\', '"']
  else if c = '\\' then ['\\', '\\']
  else if isUnprintable c then ['\\', 'u', '\x7b'] ++ Hex.digits c.toNat ++ ['\x7d']
  else [c]

/-- The text between double quotes, each character escaped where it has to be. -/
def quote (s : String) : String :=
  String.ofList (['"'] ++ s.toList.flatMap escapeChar ++ ['"'])

end InspectionHost.Text.Quoted
