/-
**Texts as bytes.**

The UTF-8 form of a text, the strict reader that refuses anything else, and the lenient reader
that puts U+FFFD in place of every longest part that begins no well-formed character.

Main definitions:

* `ChapterAssembly.Utf8.encode` — the bytes of a text;
* `Utf8.next` — the character at the start of a byte sequence, or the ill-formed part there;
* `Utf8.decode?`, `Utf8.decodeLossy` — the strict and the lenient reader.
-/

import ChapterAssembly.Text.Basic

set_option relaxedAutoImplicit false
set_option autoImplicit false

namespace ChapterAssembly

/-- A sequence of bytes. -/
abbrev Bytes := List UInt8

namespace Utf8

/-- The bytes of a character. -/
def encodeChar (c : Char) : Bytes := String.utf8EncodeChar c

/-- The bytes of a text. -/
def encode (t : Text) : Bytes := t.flatMap encodeChar

/-- The number of bytes of a text. -/
def size (t : Text) : Nat := t.foldl (fun n c => n + c.utf8Size) 0

/-- What a first byte announces: the bits it carries, the bounds of the second byte, and how many
more bytes of the form `10xxxxxx` follow that one. -/
def announced (b : UInt8) : Option (Nat × (UInt8 × UInt8) × Nat) :=
  if 0xC2 ≤ b ∧ b ≤ 0xDF then some (b.toNat - 0xC0, (0x80, 0xBF), 0)
  else if b = 0xE0 then some (0, (0xA0, 0xBF), 1)
  else if b = 0xED then some (0xD, (0x80, 0x9F), 1)
  else if 0xE1 ≤ b ∧ b ≤ 0xEF then some (b.toNat - 0xE0, (0x80, 0xBF), 1)
  else if b = 0xF0 then some (0, (0x90, 0xBF), 2)
  else if b = 0xF4 then some (4, (0x80, 0x8F), 2)
  else if 0xF1 ≤ b ∧ b ≤ 0xF3 then some (b.toNat - 0xF0, (0x80, 0xBF), 2)
  else none

/-- Reads `count` bytes of the form `10xxxxxx`. -/
def continuation (acc : Nat) : Nat → Bytes → Option Nat × Bytes
  | 0, bs => (some acc, bs)
  | _ + 1, [] => (none, [])
  | n + 1, b :: bs =>
    if 0x80 ≤ b ∧ b ≤ 0xBF then continuation (acc * 64 + (b.toNat - 0x80)) n bs
    else (none, b :: bs)

/-- The character that starts with byte `b`, and what follows it; without a character, what
follows the ill-formed part. -/
def next (b : UInt8) (bs : Bytes) : Option Char × Bytes :=
  if b < 0x80 then (some (Char.ofNat b.toNat), bs)
  else
    match announced b, bs with
    | none, _ => (none, bs)
    | some _, [] => (none, [])
    | some (bits, (lo, hi), more), c :: cs =>
      if lo ≤ c ∧ c ≤ hi then
        let (n, rest) := continuation (bits * 64 + (c.toNat - 0x80)) more cs
        (n.map Char.ofNat, rest)
      else (none, c :: cs)

theorem length_continuation (acc n : Nat) (bs : Bytes) :
    (continuation acc n bs).2.length ≤ bs.length := by
  induction n generalizing acc bs with
  | zero => simp [continuation]
  | succ n ih =>
    cases bs with
    | nil => simp [continuation]
    | cons b bs =>
      simp only [continuation]
      split
      · exact Nat.le_succ_of_le (ih _ _)
      · simp

theorem length_next (b : UInt8) (bs : Bytes) : (next b bs).2.length ≤ bs.length := by
  unfold next
  split
  · simp
  · split
    · simp
    · simp
    · split
      · exact Nat.le_succ_of_le (length_continuation _ _ _)
      · simp

/-- The text of a byte sequence, with U+FFFD for its ill-formed parts. -/
def decodeLossy : Bytes → Text
  | [] => []
  | b :: bs => (next b bs).1.getD '\uFFFD' :: decodeLossy (next b bs).2
termination_by bs => bs.length
decreasing_by exact Nat.lt_succ_of_le (length_next b bs)

/-- The text of a byte sequence, if all of it is well-formed. -/
def decode? : Bytes → Option Text
  | [] => some []
  | b :: bs =>
    match (next b bs).1 with
    | none => none
    | some c => (decode? (next b bs).2).map (c :: ·)
termination_by bs => bs.length
decreasing_by exact Nat.lt_succ_of_le (length_next b bs)

end Utf8

end ChapterAssembly
