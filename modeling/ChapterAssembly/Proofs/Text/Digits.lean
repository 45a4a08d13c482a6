/-
**Written numbers.**

Numbers are written in decimal digits, with zeros in front of them up to some width, or behind them
as the places of a fraction.  Each of these forms is read as the number it was written for.

Main results:

* `Text.decimal?_ofNat` — **the digits of a number are read as the number**;
* `Text.decimal?_padStart` — zeros in front do not count;
* `Text.decimal?_padEnd` — zeros behind count as places.
-/

import Mathlib.Tactic.Ring
import ChapterAssembly.Text.Basic

set_option relaxedAutoImplicit false
set_option autoImplicit false

namespace ChapterAssembly

namespace Text

variable {t : Text} {n width : Nat}

/-- A written number: decimal digits, and at least one. -/
structure IsNumber (t : Text) : Prop where
  ne_nil : t ≠ []
  digits : ∀ c ∈ t, isAsciiDigit c = true

/-- **A written number is read digit by digit.** -/
theorem IsNumber.decimal?_eq (h : IsNumber t) : decimal? t = some (Nat.ofDigitChars 10 t 0) := by
  have hempty : t.isEmpty = false := by simpa using h.ne_nil
  have hall : t.all isAsciiDigit = true := by simpa using h.digits
  simp only [decimal?, hempty, hall, Bool.not_true, Bool.or_self, Bool.false_eq_true, if_false,
    Nat.ofDigitChars, Nat.mul_comm, Char.reduceToNat]

theorem isNumber_ofNat (n : Nat) : IsNumber (ofNat n) where
  ne_nil := Nat.toDigits_ne_nil
  digits _ hc := Nat.isDigit_of_mem_toDigits (by decide) (by decide) hc

/-- **The digits of a number are read as the number.** -/
@[simp] theorem decimal?_ofNat (n : Nat) : decimal? (ofNat n) = some n := by
  rw [(isNumber_ofNat n).decimal?_eq, ofNat, Nat.ofDigitChars_ten_toDigits]

theorem length_ofNat_le (hn : n < 10 ^ width) (hw : 0 < width) : (ofNat n).length ≤ width :=
  (Nat.length_toDigits_le_iff (by decide) hw).2 hn

theorem IsNumber.padStart (h : IsNumber t) (width : Nat) : IsNumber (padStart width '0' t) where
  ne_nil := by simp [Text.padStart, h.ne_nil]
  digits c hc := by
    rcases List.mem_append.1 hc with hc | hc
    · rw [List.eq_of_mem_replicate hc]
      rfl
    · exact h.digits c hc

theorem IsNumber.padEnd (h : IsNumber t) (width : Nat) : IsNumber (padEnd width '0' t) where
  ne_nil := by simp [Text.padEnd, h.ne_nil]
  digits c hc := by
    rcases List.mem_append.1 hc with hc | hc
    · exact h.digits c hc
    · rw [List.eq_of_mem_replicate hc]
      rfl

theorem length_padStart (c : Char) (h : t.length ≤ width) : (padStart width c t).length = width := by
  simp only [padStart, List.length_append, List.length_replicate]
  omega

/-- Zeros behind some digits are places. -/
theorem ofDigitChars_replicate_zero (k m : Nat) :
    Nat.ofDigitChars 10 (List.replicate k '0') m = m * 10 ^ k := by
  induction k generalizing m with
  | zero => simp [Nat.ofDigitChars]
  | succ k ih =>
      rw [List.replicate_succ, Nat.ofDigitChars_cons, ih]
      simp only [Char.reduceToNat, Nat.sub_self, Nat.add_zero]
      ring

/-- Zeros in front of a number do not count. -/
theorem IsNumber.decimal?_padStart (h : IsNumber t) (width : Nat) :
    decimal? (Text.padStart width '0' t) = decimal? t := by
  rw [(h.padStart width).decimal?_eq, h.decimal?_eq, Text.padStart, Nat.ofDigitChars_append,
    ofDigitChars_replicate_zero, Nat.zero_mul]

/-- Zeros behind a number count as places. -/
theorem IsNumber.decimal?_padEnd (h : IsNumber t) (width : Nat) :
    decimal? (Text.padEnd width '0' t) =
      (decimal? t).map (· * 10 ^ (width - t.length)) := by
  rw [(h.padEnd width).decimal?_eq, h.decimal?_eq, Text.padEnd, Nat.ofDigitChars_append,
    ofDigitChars_replicate_zero, Option.map_some]

end Text

end ChapterAssembly
