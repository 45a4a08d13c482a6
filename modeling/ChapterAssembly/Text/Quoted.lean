/-
**Texts between quotes, as diagnostics show them.**

A diagnostic shows a text between double quotes, with escapes for quotes, backslashes, the usual
control characters, and everything that has no visible form of its own.

Main definitions:

* `Text.isVisible` — the characters that stand for themselves;
* `Text.quoted` — a text between double quotes.
-/

import ChapterAssembly.Text.Property

set_option relaxedAutoImplicit false
set_option autoImplicit false

namespace ChapterAssembly

namespace Text

/-- The characters without a visible form: controls, formats, private use, unassigned code
points, and all separators. -/
def invisible : CharSet := Category.charsOf (Category.group 'c' ++ Category.group 'z')

/-- A character that is shown as itself: a space, or one that has a visible form and does not
extend the character before it. -/
def isVisible (c : Char) : Bool :=
  c == ' ' || (!invisible.contains c && !Property.graphemeExtend.contains c)

/-- The hexadecimal digits of a number in lower case. -/
def hexOfNat (n : Nat) : Text := Nat.toDigits 16 n

/-- A character inside double quotes. -/
def quotedChar (c : Char) : Text :=
  match c with
  | '\x00' => "\\0"
  | '\t' => "\\t"
  | '\n' => "\\n"
  | '\r' => "\\r"
  | '"' => "\\\""
  | '\\' => "\\\\"
  | _ => if isVisible c then [c] else "\\u\x7b".toList ++ hexOfNat c.toNat ++ ['\x7d']

/-- A text between double quotes. -/
def quoted (t : Text) : Text := '"' :: t.flatMap quotedChar ++ ['"']

end Text

end ChapterAssembly
