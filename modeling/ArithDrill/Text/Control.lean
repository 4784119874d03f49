import ArithDrill.Text.Basic

/-!
# Control characters

A terminal acts on some control characters instead of showing them: the bell, the backspace,
the form feed, the escape and the delete character of ASCII, and the thirty-two controls after
ASCII.  Where a text holds what a user has typed, these are spelled out before it is shown.

## Main definitions

* `Text.codePoint` — a character by its code point.
* `Text.spellControls` — a text with these characters spelled out.
-/

namespace ArithDrill.Text

/-- The ASCII characters on which a terminal acts. -/
def asciiControls : List Char := ['\x07', '\x08', '\x0c', '\x1b', '\x7f']

/-- Whether a character is one of the thirty-two controls after ASCII. -/
def isHighControl (c : Char) : Bool := decide (0x80 ≤ c.toNat ∧ c.toNat ≤ 0x9F)

/-- A character by the hexadecimal digits of its code point, in braces after `\u`. -/
def codePoint (c : Char) : Text :=
  "\\u\x7b".toList ++ Nat.toDigits 16 c.toNat ++ "\x7d".toList

/-- A character as it is shown: a control by two hexadecimal digits within ASCII, and by its code
point beyond. -/
def spellControl (c : Char) : Text :=
  if asciiControls.contains c then
    "\\x".toList ++ [Nat.digitChar (c.toNat / 16), Nat.digitChar (c.toNat % 16)]
  else if isHighControl c then codePoint c
  else [c]

/-- A text with the controls of terminals spelled out. -/
def spellControls (t : Text) : Text := t.flatMap spellControl

end ArithDrill.Text
