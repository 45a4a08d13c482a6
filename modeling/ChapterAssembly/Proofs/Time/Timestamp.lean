/-
**Moments that are written are read back.**

The reader of moments is liberal, and of what is written it takes every part just as it was meant:
numbers have all their digits there, so that none runs into the next part, and no blank stands in
between.

Main definitions:

* `Timestamp.Kept` — a moment in a year that can be kept.

Main results:

* `Reader.number_append` — a written number in front of what is no digit;
* `Reader.year_append`, `Reader.fraction_append` — a written year, and written billionths;
* `Timestamp.ofText?_text` — **a written moment is read back**.
-/

import Mathlib.Data.List.Basic
import ChapterAssembly.Proofs.Text.Digits
import ChapterAssembly.Time.Timestamp

set_option relaxedAutoImplicit false
set_option autoImplicit false

namespace ChapterAssembly

namespace Timestamp

open Text

/-- A moment in a year that can be kept. -/
def Kept (t : Timestamp) : Prop := -262143 ≤ t.date.year ∧ t.date.year ≤ 262142

instance (t : Timestamp) : Decidable t.Kept := inferInstanceAs (Decidable (_ ∧ _))

namespace Reader

variable {α β : Type} {t rest ds : Text} {n most : Nat} {c : Char}

/-! ### Reading, carried out -/

theorem bind_apply (x : Reader α) (f : α → Reader β) (t : Text) :
    (x >>= f) t = (x t).bind fun p => f p.1 p.2 := rfl

theorem pure_apply (a : α) (t : Text) : (pure a : Reader α) t = some (a, t) := rfl

theorem get_apply (t : Text) : (get : Reader Text) t = some (t, t) := rfl

theorem set_apply (s t : Text) : (set s : Reader PUnit) t = some ((), s) := rfl

theorem modify_apply (f : Text → Text) (t : Text) :
    (modify f : Reader PUnit) t = some ((), f t) := rfl

theorem lift_apply (x : Option α) (t : Text) : (liftM x : Reader α) t = x.map (·, t) := by
  cases x <;> rfl

/-! ### Numbers -/

theorem bind_eq_some {x : Reader α} {a : α} (h : x t = some (a, rest)) (f : α → Reader β) :
    (x >>= f) t = f a rest := by
  rw [bind_apply, h, Option.bind_some]

/-- There are no blanks where something else stands. -/
theorem blanks_of_not_isBlank (h : ∀ c ∈ t.head?, isBlank c = false) :
    blanks t = some ((), t) := by
  have : Text.trimStart t = t := by
    cases t with
    | nil => rfl
    | cons c t => exact Text.trimStart_cons_of_not_isBlank (h c (by simp))
  rw [blanks, modify_apply, this]

theorem isBlank_of_isAsciiDigit (h : isAsciiDigit c = true) : isBlank c = false := by
  simp only [isAsciiDigit, Char.isDigit, Bool.and_eq_true, decide_eq_true_eq,
    UInt32.le_iff_toNat_le] at h
  have hn : 48 ≤ c.toNat ∧ c.toNat ≤ 57 := h
  simp only [isBlank, Bool.or_eq_false_iff, Bool.and_eq_false_iff, decide_eq_false_iff_not,
    beq_eq_false_iff_ne]
  omega

/-- What a reader of numbers finds where no blank stands. -/
theorem number_eq (h : blanks t = some ((), t)) (most : Nat) :
    number most t = (decimal? ((t.take most).takeWhile isAsciiDigit)).map
      (·, t.drop ((t.take most).takeWhile isAsciiDigit).length) := by
  rw [number, bind_eq_some h]
  cases hn : decimal? ((t.take most).takeWhile isAsciiDigit) <;>
    simp [bind_apply, get_apply, set_apply, lift_apply, hn]

/-- The character at the start of a text is no digit. -/
def Stops (rest : Text) : Prop := ∀ c ∈ rest.head?, isAsciiDigit c = false

/-- **A written number in front of what is no digit**, or one that has all digits it may have. -/
theorem number_append (hds : IsNumber ds) (hn : decimal? ds = some n) (hmost : ds.length ≤ most)
    (hrest : ds.length = most ∨ Stops rest) :
    number most (ds ++ rest) = some (n, rest) := by
  have hblanks : blanks (ds ++ rest) = some ((), ds ++ rest) := by
    refine blanks_of_not_isBlank fun c hc => isBlank_of_isAsciiDigit (hds.digits c ?_)
    rw [List.head?_append_of_ne_nil _ hds.ne_nil] at hc
    exact List.mem_of_head? hc
  have hstop : (rest.take (most - ds.length)).takeWhile isAsciiDigit = [] := by
    rcases hrest with heq | hrest
    · simp [heq]
    · cases rest with
      | nil => simp
      | cons c rest => cases most - ds.length <;> simp_all [Stops]
  have hdigits : ((ds ++ rest).take most).takeWhile isAsciiDigit = ds := by
    rw [List.take_append, List.take_of_length_le hmost,
      List.takeWhile_append_of_pos hds.digits, hstop, List.append_nil]
  rw [number_eq hblanks, hdigits, hn, List.drop_left, Option.map_some]

/-- A number below one hundred. -/
theorem number_twoDigits (hn : n < 100) (rest : Text) :
    number 2 (twoDigits n ++ rest) = some (n, rest) := by
  have hlength : (twoDigits n).length = 2 :=
    length_padStart '0' (length_ofNat_le hn (by decide))
  exact number_append ((isNumber_ofNat n).padStart 2)
    (((isNumber_ofNat n).decimal?_padStart 2).trans (decimal?_ofNat n)) hlength.le (.inl hlength)

/-- A mark that is no blank. -/
theorem mark_cons (hc : isBlank c = false) (rest : Text) :
    mark c (c :: rest) = some ((), rest) := by
  rw [mark, bind_eq_some (blanks_of_not_isBlank (by simpa using hc))]
  simp [oneOf, bind_apply, pure_apply]

/-! ### Years -/

theorem year_minus (h : (t.head?.map isAsciiDigit).getD false = true) :
    year ('-' :: t) = (number t.length t).map fun p => (-(Int.ofNat p.1), p.2) := by
  rw [year, bind_eq_some (blanks_of_not_isBlank (by simp; rfl))]
  simp only [bind_apply, get_apply, set_apply, pure_apply, if_pos h, Option.bind_some]
  cases number t.length t <;> rfl

theorem year_plus (h : (t.head?.map isAsciiDigit).getD false = true) :
    year ('+' :: t) = (number t.length t).map fun p => (Int.ofNat p.1, p.2) := by
  rw [year, bind_eq_some (blanks_of_not_isBlank (by simp; rfl))]
  simp only [bind_apply, get_apply, set_apply, pure_apply, if_pos h, Option.bind_some]
  cases number t.length t <;> rfl

theorem year_digit (hc : isAsciiDigit c = true) :
    year (c :: t) = (number 4 (c :: t)).map fun p => (Int.ofNat p.1, p.2) := by
  have hminus : c ≠ '-' := by rintro rfl; cases hc
  have hplus : c ≠ '+' := by rintro rfl; cases hc
  rw [year, bind_eq_some (blanks_of_not_isBlank (by simpa using isBlank_of_isAsciiDigit hc))]
  cases h : number 4 (c :: t) <;>
    simp [-bind_pure_comp, bind_apply, get_apply, pure_apply, hminus, hplus, h]

theorem year_append (y : Int) (hrest : Stops rest) :
    year (yearText y ++ rest) = some (y, rest) := by
  have hnumber := (isNumber_ofNat y.natAbs).padStart 4
  have hread : decimal? (padStart 4 '0' (ofNat y.natAbs)) = some y.natAbs :=
    ((isNumber_ofNat y.natAbs).decimal?_padStart 4).trans (decimal?_ofNat _)
  have hhead : ((padStart 4 '0' (ofNat y.natAbs) ++ rest).head?.map isAsciiDigit).getD false =
      true := by
    obtain ⟨d, ds, hds⟩ := List.exists_cons_of_ne_nil hnumber.ne_nil
    simpa [hds] using hnumber.digits d (by simp [hds])
  unfold yearText
  simp only
  split
  · next hneg =>
      rw [List.cons_append, year_minus hhead,
        number_append hnumber hread (by simp) (.inr hrest), Option.map_some]
      simp only [Option.some.injEq, Prod.mk.injEq, and_true, Int.ofNat_eq_natCast]
      omega
  · split
    · next hlarge =>
        rw [List.cons_append, year_plus hhead,
          number_append hnumber hread (by simp) (.inr hrest), Option.map_some]
        simp only [Option.some.injEq, Prod.mk.injEq, and_true, Int.ofNat_eq_natCast]
        omega
    · next hneg hlarge =>
        have hlength : (padStart 4 '0' (ofNat y.natAbs)).length = 4 :=
          length_padStart '0' (length_ofNat_le (by omega) (by decide))
        have hyear : number 4 (padStart 4 '0' (ofNat y.natAbs) ++ rest) = some (y.natAbs, rest) :=
          number_append hnumber hread hlength.le (.inl hlength)
        obtain ⟨d, ds, hds⟩ := List.exists_cons_of_ne_nil hnumber.ne_nil
        rw [hds] at hyear ⊢
        rw [List.cons_append] at hyear ⊢
        rw [year_digit (hnumber.digits d (by simp [hds])), hyear, Option.map_some]
        simp only [Option.some.injEq, Prod.mk.injEq, and_true, Int.ofNat_eq_natCast]
        omega

/-! ### Billionths of a second -/

theorem fraction_point (t : Text) :
    fraction ('.' :: t) = ((decimal? (padEnd 9 '0' ((t.takeWhile isAsciiDigit).take 9))).filter
      fun _ => !(t.takeWhile isAsciiDigit).isEmpty).map
        (·, t.drop (t.takeWhile isAsciiDigit).length) := by
  simp only [fraction, bind_apply, get_apply, set_apply, lift_apply, Option.bind_some]

/-- Some places of the billionths, without the zeros behind them. -/
theorem fraction_places {places : Nat} (hp : 0 < places) (hnine : places ≤ 9)
    (hn : n < 10 ^ places) (hrest : Stops rest) :
    fraction ('.' :: padStart places '0' (ofNat n) ++ rest) =
      some (n * 10 ^ (9 - places), rest) := by
  have hnumber := (isNumber_ofNat n).padStart places
  have hread : decimal? (padStart places '0' (ofNat n)) = some n :=
    ((isNumber_ofNat n).decimal?_padStart places).trans (decimal?_ofNat _)
  have hlength : (padStart places '0' (ofNat n)).length = places :=
    length_padStart '0' (length_ofNat_le hn hp)
  have hstop : rest.takeWhile isAsciiDigit = [] := by
    cases rest with
    | nil => rfl
    | cons c rest => simp_all [Stops]
  have hdigits : (padStart places '0' (ofNat n) ++ rest).takeWhile isAsciiDigit =
      padStart places '0' (ofNat n) := by
    rw [List.takeWhile_append_of_pos hnumber.digits, hstop, List.append_nil]
  have hempty : (padStart places '0' (ofNat n)).isEmpty = false := by simpa using hnumber.ne_nil
  rw [List.cons_append, fraction_point, hdigits, List.take_of_length_le (by omega),
    hnumber.decimal?_padEnd, hread, List.drop_left, hlength, hempty]
  rfl

theorem fraction_append (hn : n < 1000000000) (hrest : Stops rest) (hdot : rest.head? ≠ some '.') :
    fraction (fractionText n ++ rest) = some (n, rest) := by
  unfold fractionText
  split
  · next h0 =>
      subst h0
      cases rest with
      | nil => rfl
      | cons c rest =>
          have hc : c ≠ '.' := by simpa using hdot
          simp_all [fraction, bind_apply, get_apply, pure_apply]
  · split
    · next h0 h3 =>
        rw [fraction_places (by decide) (by decide) (by omega) hrest]
        simp only [Option.some.injEq, Prod.mk.injEq, and_true]
        omega
    · split
      · next h0 h3 h6 =>
          rw [fraction_places (by decide) (by decide) (by omega) hrest]
          simp only [Option.some.injEq, Prod.mk.injEq, and_true]
          omega
      · next h0 h3 h6 =>
          rw [fraction_places (by decide) (by decide) (by omega) hrest]
          simp

/-! ### Days and times of day -/

theorem lift_eq_some {x : Option α} {a : α} (h : x = some a) :
    (liftM x : Reader α) t = some (a, t) := by
  rw [lift_apply, h, Option.map_some]

theorem kept_eq_some {d : Date} (h : -262143 ≤ d.year ∧ d.year ≤ 262142) (t : Text) :
    kept d t = some (d, t) := by
  rw [kept, if_pos h]
  rfl

theorem date_append {d : Date} (h : -262143 ≤ d.year ∧ d.year ≤ 262142) (rest : Text) :
    date (yearText d.year ++ '-' :: (twoDigits d.month ++ '-' :: (twoDigits d.day ++ rest))) =
      some (d, rest) := by
  have hmonth := d.exists_month
  have hday : d.day ≤ 31 := by
    have := d.exists_day
    have : daysInMonth d.year d.month ≤ 31 := by
      unfold daysInMonth
      repeat' split
      all_goals omega
    omega
  rw [date, bind_eq_some (year_append _ (by simp [Stops]; rfl)), bind_eq_some (mark_cons rfl _),
    bind_eq_some (number_twoDigits (by omega) _), bind_eq_some (mark_cons rfl _),
    bind_eq_some (number_twoDigits (by omega) _), bind_eq_some (lift_eq_some d.of?_eq),
    kept_eq_some h]

/-- A time in universal time. -/
theorem offset_zulu (t : Timestamp) : offset t ['Z'] = some (t, []) := by
  rw [offset, bind_eq_some (blanks_of_not_isBlank (by simp; rfl))]
  rfl

end Reader

/-- A moment has the time of day that it is written with. -/
theorem of?_eq (t : Timestamp) :
    of? t.date (t.second / 3600) (t.second / 60 % 60) (t.second % 60 + t.nanosecond / 1000000000)
      (t.nanosecond % 1000000000) = some t := by
  have hs := t.second_lt
  have hn := t.nanosecond_lt
  have hleap := t.minute_ends
  have hday : t.second / 3600 < 24 ∧ t.second / 60 % 60 < 60 ∧
      t.second % 60 + t.nanosecond / 1000000000 ≤ 60 ∧
      t.nanosecond % 1000000000 < 1000000000 := by omega
  rw [of?]
  simp only [dif_pos hday, Option.some.injEq]
  ext <;> simp only <;> split <;> omega

namespace Reader

theorem timestamp_text {t : Timestamp} (h : t.Kept) : timestamp (t.text ['Z']) = some (t, []) := by
  have hs := t.second_lt
  have hn := t.nanosecond_lt
  have hleap := t.minute_ends
  simp only [text, List.append_assoc, List.cons_append, List.nil_append]
  rw [timestamp, bind_eq_some (date_append h _), bind_eq_some (a := 'T') (by rfl),
    bind_eq_some (number_twoDigits (by omega) _), bind_eq_some (mark_cons rfl _),
    bind_eq_some (number_twoDigits (by omega) _), bind_eq_some (mark_cons rfl _),
    bind_eq_some (number_twoDigits (by omega) _),
    bind_eq_some (fraction_append (by omega) (by simp [Stops]; rfl) (by simp)),
    bind_eq_some (lift_eq_some t.of?_eq), bind_eq_some (offset_zulu t),
    bind_eq_some (kept_eq_some h _)]
  rfl

end Reader

/-- **A written moment is read back.** -/
theorem ofText?_text {t : Timestamp} (h : t.Kept) : ofText? (t.text ['Z']) = some t := by
  rw [ofText?, Reader.timestamp_text h]
  rfl

/-! ### What is read can be kept -/

theorem Reader.bind_eq_some_iff {α β : Type} {x : Reader α} {f : α → Reader β} {t : Text}
    {p : β × Text} : (x >>= f) t = some p ↔ ∃ a rest, x t = some (a, rest) ∧ f a rest = some p := by
  rw [bind_apply, Option.bind_eq_some_iff]
  simp

/-- **A moment that is read is one that can be kept.** -/
theorem kept_of_ofText? {s : Text} {t : Timestamp} (h : ofText? s = some t) : t.Kept := by
  obtain ⟨⟨moment, rest⟩, hread, hend⟩ := Option.bind_eq_some_iff.1 h
  obtain rfl : moment = t := by
    simp only at hend
    split at hend
    · exact Option.some.inj hend
    · cases hend
  -- the year is looked at last, after everything has been read
  simp only [Reader.timestamp, Reader.bind_eq_some_iff] at hread
  obtain ⟨_, _, -, _, _, -, _, _, -, _, _, -, _, _, -, _, _, -, _, _, -, _, _, -, _, _, -, t, _, -,
    _, _, hkept, hpure⟩ := hread
  obtain ⟨rfl, -⟩ := Prod.mk.inj (Option.some.inj hpure)
  unfold Reader.kept at hkept
  split at hkept
  · next hyear => exact hyear
  · cases hkept

end Timestamp

end ChapterAssembly
