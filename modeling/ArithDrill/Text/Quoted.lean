import ArithDrill.Text.Control
import ArithDrill.Text.Printable

/-!
# Quoted texts

A text in the journal that may hold anything is put in double quotes.  Quotes, backslashes and
the common controls are escaped by a backslash and one more character, and any other character
that does not show by itself by its code point.

## Main definitions

* `Text.escape` — a character as it stands between quotes.
* `Text.quoted` — a text in quotes.
-/

namespace ArithDrill.Text

/-- A character as it stands between quotes. -/
def escape (c : Char) : Text :=
  if c = '"' then "\\\"".toList
  else if c = '\\' then "\\\\".toList
  else if c = '\t' then "\\t".toList
  else if c = '\n' then "\\n".toList
  else if c = '\r' then "\\r".toList
  else if c = '\x00' then "\\0".toList
  else if isPrintable c then [c]
  else codePoint c

/-- A text in quotes. -/
def quoted (t : Text) : Text := '"' :: (t.flatMap escape ++ ['"'])

end ArithDrill.Text
