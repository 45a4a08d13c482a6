/-
**Non-ASCII labels of domain names in ASCII.**

A label with other characters than ASCII ones is written with its ASCII characters first and then
a list of insertions, each a number in base 36 whose digits adapt to the numbers before.

Main definitions:

* `ChapterAssembly.Punycode.encode` — the ASCII form of a label;
* `Punycode.decode?` — the label of an ASCII form.
-/

import ChapterAssembly.Text.Basic

set_option relaxedAutoImplicit false
set_option autoImplicit false

namespace ChapterAssembly

namespace Punycode

/-- The digit of a value below 36: small letters, then decimal digits. -/
def digit (n : Nat) : Char := if n < 26 then Char.ofNat (97 + n) else Char.ofNat (22 + n)

/-- The value of a digit; capitals count like small letters. -/
def digitValue? (c : Char) : Option Nat :=
  if 'a' ≤ c ∧ c ≤ 'z' then some (c.toNat - 97)
  else if 'A' ≤ c ∧ c ≤ 'Z' then some (c.toNat - 65)
  else if '0' ≤ c ∧ c ≤ '9' then some (c.toNat - 22)
  else none

/-- The threshold at position `k`: a digit below it ends its number. -/
def threshold (k bias : Nat) : Nat := min 26 (max 1 (k - bias))

theorem threshold_pos (k bias : Nat) : 0 < threshold k bias := by unfold threshold; omega

/-- Divides `delta` down to the range of the bias, counting the divisions in steps of 36. -/
def scaleDown (delta k : Nat) : Nat :=
  if delta > 455 then scaleDown (delta / 35) (k + 36) else k + 36 * delta / (delta + 38)
termination_by delta

/-- The bias after a number `delta`, with `points` characters placed so far. -/
def adapt (delta points : Nat) (first : Bool) : Nat :=
  let delta := if first then delta / 700 else delta / 2
  scaleDown (delta + delta / points) 0

/-- The digits of a number from position `k` on. -/
def digits (bias k q : Nat) : Text :=
  let t := threshold k bias
  if _h : q < t then [digit q]
  else digit (t + (q - t) % (36 - t)) :: digits bias (k + 36) ((q - t) / (36 - t))
termination_by q
decreasing_by
  have := threshold_pos k bias
  have := Nat.div_le_self (q - threshold k bias) (36 - threshold k bias)
  have : ¬ q < threshold k bias := _h
  show (q - threshold k bias) / (36 - threshold k bias) < q
  omega

/-- What the encoder carries: the last code point placed, the number being counted, the bias, and
how many characters are placed. -/
structure Encoder where
  delta : Nat
  bias : Nat
  placed : Nat
  out : Text

/-- Walks over a character of the label while the code point `m` is being placed. -/
def Encoder.visit (basic m : Nat) (s : Encoder) (c : Char) : Encoder :=
  if c.toNat < m then { s with delta := s.delta + 1 }
  else if c.toNat = m then
    { delta := 0, bias := adapt s.delta (s.placed + 1) (s.placed == basic),
      placed := s.placed + 1, out := s.out ++ digits s.bias 36 s.delta }
  else s

/-- Places the code points `ms`, given in ascending order, the last one placed being `n - 1`. -/
def Encoder.place (basic : Nat) (t : Text) : List Nat → Nat → Encoder → Encoder
  | [], _, s => s
  | m :: ms, n, s =>
    let s := t.foldl (Encoder.visit basic m) { s with delta := s.delta + (m - n) * (s.placed + 1) }
    Encoder.place basic t ms (m + 1) { s with delta := s.delta + 1 }

/-- The ASCII form of a label. -/
def encode (t : Text) : Text :=
  let basic := t.filter fun c => c.toNat < 128
  let others := ((t.filter fun c => 128 ≤ c.toNat).map Char.toNat).mergeSort.eraseDups
  let start := if basic.isEmpty then [] else basic ++ ['-']
  (Encoder.place basic.length t others 128 ⟨0, 72, basic.length, start⟩).out

/-- Reads one number: its value and what follows.  Numbers have 32 bits. -/
def readNumber (bias : Nat) : Nat → Nat → Nat → Text → Option (Nat × Text)
  | _, _, _, [] => none
  | k, w, acc, c :: cs =>
    match digitValue? c with
    | none => none
    | some d =>
      let acc := acc + d * w
      let t := threshold k bias
      if acc ≥ UInt32.size then none
      else if d < t then some (acc, cs)
      else readNumber bias (k + 36) (w * (36 - t)) acc cs

theorem length_readNumber {bias k w acc : Nat} {cs rest : Text} {n : Nat}
    (h : readNumber bias k w acc cs = some (n, rest)) : rest.length < cs.length := by
  induction cs generalizing k w acc with
  | nil => simp [readNumber] at h
  | cons c cs ih =>
    simp only [readNumber] at h
    split at h
    · simp at h
    · split at h
      · simp at h
      · split at h
        · simp only [Option.some.injEq, Prod.mk.injEq] at h
          simp [h.2]
        · exact Nat.lt_succ_of_lt (ih h)

/-- Carries out the insertions: `n` is the last code point inserted and `i` the position after it,
which is zero only before the first insertion. -/
def insertAll (n i bias : Nat) (out : Text) : Text → Option Text
  | [] => some out
  | c :: cs =>
    match _h : readNumber bias 36 1 0 (c :: cs) with
    | none => none
    | some (delta, rest) =>
      let size := out.length + 1
      let n := n + (i + delta) / size
      let pos := (i + delta) % size
      if n.isValidChar ∧ 128 ≤ n then
        insertAll n (pos + 1) (adapt delta size (i == 0)) (out.insertIdx pos (Char.ofNat n)) rest
      else none
termination_by cs => cs.length
decreasing_by exact length_readNumber _h

/-- The label of an ASCII form: what stands before the last hyphen is kept, what follows are
insertions.  A hyphen at the very start does not count. -/
def decode? (t : Text) : Option Text :=
  let tail := (t.reverse.takeWhile (· != '-')).reverse
  let head := t.take (t.length - tail.length - 1)
  if tail.length = t.length ∨ head.isEmpty then insertAll 128 0 72 [] t
  else insertAll 128 0 72 head tail

end Punycode

end ChapterAssembly
