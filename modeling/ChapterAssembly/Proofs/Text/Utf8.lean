/-
**Texts written as bytes are read back.**

The strict reader finds in the bytes of a text just that text.  A character has one to four bytes:
the first one announces how many more there are, and each of these carries six bits.

Main results:

* `Utf8.next_encodeChar` — the character at the start of some bytes;
* `Utf8.decode?_encode` — **a text written as bytes is read back**.
-/

import ChapterAssembly.Text.Utf8

set_option relaxedAutoImplicit false
set_option autoImplicit false

namespace ChapterAssembly

namespace Utf8

variable {k bits more : Nat} {b lo hi : UInt8}

/-! ### Bytes that carry on -/

theorem toNat_carrying (hk : k < 64) : (UInt8.ofNat (k + 128)).toNat = k + 128 := by
  simp only [UInt8.toNat_ofNat']
  omega

/-- A byte that carries on a character adds six bits. -/
theorem continuation_cons (hk : k < 64) (acc n : Nat) (bs : Bytes) :
    continuation acc (n + 1) (UInt8.ofNat (k + 128) :: bs) =
      continuation (acc * 64 + k) n bs := by
  have hin : (0x80 : UInt8) ≤ UInt8.ofNat (k + 128) ∧ UInt8.ofNat (k + 128) ≤ 0xBF := by
    simp only [UInt8.le_iff_toNat_le, toNat_carrying hk, UInt8.reduceToNat]
    omega
  rw [continuation, if_pos hin, toNat_carrying hk, Nat.add_sub_cancel]

/-- The second byte of a character has bounds that the first one announces. -/
theorem next_of_announced (hb : ¬ b < 0x80) (ha : announced b = some (bits, (lo, hi), more))
    (hk : k < 64) (hlo : lo.toNat ≤ k + 128) (hhi : k + 128 ≤ hi.toNat) (bs : Bytes) :
    next b (UInt8.ofNat (k + 128) :: bs) =
      ((continuation (bits * 64 + k) more bs).1.map Char.ofNat,
        (continuation (bits * 64 + k) more bs).2) := by
  have hin : lo ≤ UInt8.ofNat (k + 128) ∧ UInt8.ofNat (k + 128) ≤ hi := by
    simp only [UInt8.le_iff_toNat_le, toNat_carrying hk]
    exact ⟨hlo, hhi⟩
  unfold next
  simp only [if_neg hb, ha, if_pos hin, toNat_carrying hk, Nat.add_sub_cancel]

/-! ### First bytes -/

/-- The first of two bytes. -/
theorem announced_two : ∀ k < 32, ¬ UInt8.ofNat (k + 192) < 0x80 ∧
    (k < 2 ∨ announced (UInt8.ofNat (k + 192)) = some (k, (0x80, 0xBF), 0)) := by decide

/-- The first of three bytes: what could be written shorter, or is no character, is kept out by the
bounds of the second byte. -/
theorem announced_three : ∀ k < 16, ¬ UInt8.ofNat (k + 224) < 0x80 ∧
    announced (UInt8.ofNat (k + 224)) =
      some (k, (if k = 0 then 0xA0 else 0x80, if k = 13 then 0x9F else 0xBF), 1) := by decide

/-- The first of four bytes. -/
theorem announced_four : ∀ k < 5, ¬ UInt8.ofNat (k + 240) < 0x80 ∧
    announced (UInt8.ofNat (k + 240)) =
      some (k, (if k = 0 then 0x90 else 0x80, if k = 4 then 0x8F else 0xBF), 2) := by decide

/-! ### Characters -/

/-- **The character at the start of some bytes.** -/
theorem next_encodeChar (c : Char) (bs : Bytes) :
    ∃ b cs, encodeChar c = b :: cs ∧ next b (cs ++ bs) = (some c, bs) := by
  have hchar : Char.ofNat c.toNat = c := Char.ofNat_toNat c
  have hv : c.toNat < 0xD800 ∨ (0xDFFF < c.toNat ∧ c.toNat < 0x110000) := c.valid
  unfold encodeChar String.utf8EncodeChar
  rw [show c.val.toNat = c.toNat from rfl]
  generalize c.toNat = v at hchar hv
  -- the number of bytes goes by the number of the character
  by_cases h1 : v ≤ 127
  · have hb : UInt8.ofNat v < 0x80 := by
      simp only [UInt8.lt_iff_toNat_lt, UInt8.toNat_ofNat', UInt8.reduceToNat]
      omega
    refine ⟨UInt8.ofNat v, [], by simp only [if_pos h1], ?_⟩
    unfold next
    rw [if_pos hb, UInt8.toNat_ofNat', Nat.mod_eq_of_lt (by omega), hchar]
    rfl
  · by_cases h2 : v ≤ 2047
    · obtain ⟨hb, ha⟩ := announced_two (v / 64 % 32) (by omega)
      simp only [if_neg h1, if_pos h2]
      refine ⟨_, _, rfl, ?_⟩
      rw [List.singleton_append, next_of_announced hb (ha.resolve_left (by omega)) (by omega) (by simp)
          (by simp only [UInt8.reduceToNat]; omega),
        show v / 64 % 32 * 64 + v % 64 = v by omega, continuation, Option.map_some, hchar]
    · by_cases h3 : v ≤ 65535
      · obtain ⟨hb, ha⟩ := announced_three (v / 4096 % 16) (by omega)
        simp only [if_neg h1, if_neg h2, if_pos h3]
        refine ⟨_, _, rfl, ?_⟩
        rw [List.cons_append, List.singleton_append,
          next_of_announced hb ha (by omega)
            (by split <;> simp only [UInt8.reduceToNat] <;> omega)
            (by split <;> simp only [UInt8.reduceToNat] <;> omega),
          continuation_cons (by omega),
          show (v / 4096 % 16 * 64 + v / 64 % 64) * 64 + v % 64 = v by omega, continuation,
          Option.map_some, hchar]
      · obtain ⟨hb, ha⟩ := announced_four (v / 262144 % 8) (by omega)
        simp only [if_neg h1, if_neg h2, if_neg h3]
        refine ⟨_, _, rfl, ?_⟩
        rw [List.cons_append, List.cons_append, List.singleton_append,
          next_of_announced hb ha (by omega)
            (by split <;> simp only [UInt8.reduceToNat] <;> omega)
            (by split <;> simp only [UInt8.reduceToNat] <;> omega),
          continuation_cons (by omega), continuation_cons (by omega),
          show ((v / 262144 % 8 * 64 + v / 4096 % 64) * 64 + v / 64 % 64) * 64 + v % 64 = v by
            omega, continuation, Option.map_some, hchar]

/-- **A text written as bytes is read back.** -/
@[simp] theorem decode?_encode (t : Text) : decode? (encode t) = some t := by
  induction t with
  | nil => simp [encode, decode?]
  | cons c t ih =>
      obtain ⟨b, cs, hc, hnext⟩ := next_encodeChar c (encode t)
      have hcons : encode (c :: t) = b :: (cs ++ encode t) := by
        rw [encode, List.flatMap_cons, hc, List.cons_append]
        rfl
      rw [hcons, decode?, hnext]
      simp only [ih, Option.map_some]

end Utf8

end ChapterAssembly
