/-
**Percent-encoding.**

A character that may not stand in a part of a URL is written as its bytes, each a percent sign and
two hexadecimal digits.  Which characters that are depends on the part.

Main definitions:

* `Percent.encode` — a text with the characters of a set, and all beyond ASCII, encoded;
* `Percent.decode` — the bytes of a text with its percent-encoded bytes decoded;
* `Percent.control`, `Percent.inFragment`, `Percent.inQuery`, `Percent.inPath`,
  `Percent.inUserinfo` — what is encoded in which part.
-/

import ChapterAssembly.Text.Utf8

set_option relaxedAutoImplicit false
set_option autoImplicit false

namespace ChapterAssembly

namespace Percent

/-- A hexadecimal digit in upper case. -/
def hexDigit (n : Nat) : Char := if n < 10 then Char.ofNat (48 + n) else Char.ofNat (55 + n)

/-- A percent-encoded byte. -/
def encodeByte (b : UInt8) : Text := ['%', hexDigit (b.toNat / 16), hexDigit (b.toNat % 16)]

/-- A character, percent-encoded if it is in `set` or beyond ASCII. -/
def encodeChar (set : Char → Bool) (c : Char) : Text :=
  if set c || 128 ≤ c.toNat then (Utf8.encodeChar c).flatMap encodeByte else [c]

/-- A text with the characters of `set`, and all beyond ASCII, percent-encoded. -/
def encode (set : Char → Bool) (t : Text) : Text := t.flatMap (encodeChar set)

/-- The bytes of a text, where a percent sign with two hexadecimal digits is one byte. -/
def decode : Text → Bytes
  | '%' :: a :: b :: t =>
    match Text.hexValue? a, Text.hexValue? b with
    | some m, some n => UInt8.ofNat (m * 16 + n) :: decode t
    | _, _ => Utf8.encodeChar '%' ++ decode (a :: b :: t)
  | c :: t => Utf8.encodeChar c ++ decode t
  | [] => []

/-! ### What is encoded where -/

/-- The control characters: encoded everywhere. -/
def control (c : Char) : Bool := c.toNat < 0x20 || c.toNat = 0x7F

def inFragment (c : Char) : Bool := control c || " \"<>`".toList.contains c

/-- The query of a URL with one of the special schemes also encodes single quotes. -/
def inQuery (special : Bool) (c : Char) : Bool :=
  control c || " \"#<>".toList.contains c || (special && c == '\'')

def inPath (c : Char) : Bool := inFragment c || "#?\x7b\x7d".toList.contains c

def inUserinfo (c : Char) : Bool := inPath c || "/:;=@[\\]^|".toList.contains c

end Percent

end ChapterAssembly
