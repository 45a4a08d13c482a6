/-
**What can be seen of a text, and on which lines.**

Trimming lines, leaving out the blank ones and indenting the rest changes what a text is, but not
what can be seen of it: its characters that are not blank, and between which of them a line ends.

Main definitions:

* `Text.seen` — the characters that are not blank, each with whether a line has ended since the one
  before.

Main results:

* `Text.map_snd_seen` — these are all characters that are not blank;
* `Text.seen_trim` — trimming changes nothing that can be seen;
* `Text.seen_joinWith`, `Text.flatMap_lines` — **what can be seen of texts on lines of their own, and
  of the lines of a text**.
-/

import ChapterAssembly.Proofs.Text.Cuts

set_option relaxedAutoImplicit false
set_option autoImplicit false

namespace ChapterAssembly

namespace Text

/-- The characters of a text that are not blank, each with whether a line has ended since the one
before; `ended` says whether one has before the text. -/
def seen (ended : Bool) : Text → List (Bool × Char)
  | [] => []
  | c :: t =>
    if c = '\n' then seen true t
    else if isBlank c then seen ended t
    else (ended, c) :: seen false t

variable {ended : Bool} {c : Char} {t u : Text}

/-! ### Character by character -/

theorem seen_cons_of_isBlank (hc : isBlank c = true) (hne : c ≠ '\n') :
    seen ended (c :: t) = seen ended t := by
  rw [seen, if_neg hne, if_pos hc]

theorem seen_cons_of_not_isBlank (hc : isBlank c = false) :
    seen ended (c :: t) = (ended, c) :: seen false t := by
  have hne : c ≠ '\n' := by
    rintro rfl
    cases hc
  rw [seen, if_neg hne, if_neg (by simp [hc])]

/-- **All characters that are not blank can be seen.** -/
theorem map_snd_seen (ended : Bool) (t : Text) :
    (seen ended t).map Prod.snd = t.filter fun c => !isBlank c := by
  induction t generalizing ended with
  | nil => rfl
  | cons c t ih =>
      by_cases hc : isBlank c = true
      · by_cases hne : c = '\n'
        · subst hne
          exact ih true
        · rw [seen_cons_of_isBlank hc hne, ih, List.filter_cons_of_neg (by simp [hc])]
      · have hc : isBlank c = false := by simpa using hc
        rw [seen_cons_of_not_isBlank hc, List.map_cons, ih, List.filter_cons_of_pos (by simp [hc])]

/-! ### Blank characters -/

theorem seen_of_isBlankText (h : isBlankText t = true) : seen ended t = [] := by
  have hnone : (seen ended t).map Prod.snd = [] := by
    rw [map_snd_seen, List.filter_eq_nil_iff]
    intro c hc
    simp [List.all_eq_true.1 h c hc]
  exact List.map_eq_nil_iff.1 hnone

/-- Nothing can be seen of blank characters at the end. -/
theorem seen_append_blank (h : isBlankText u = true) (ended : Bool) (t : Text) :
    seen ended (t ++ u) = seen ended t := by
  induction t generalizing ended with
  | nil => exact seen_of_isBlankText h
  | cons c t ih => simp only [List.cons_append, seen, ih]

/-- Where a line has ended before, nothing can be seen of blank characters at the start. -/
theorem seen_blank_append (h : isBlankText u = true) (t : Text) :
    seen true (u ++ t) = seen true t := by
  induction u with
  | nil => rfl
  | cons c u ih =>
      obtain ⟨hc, hu⟩ := (Bool.and_eq_true _ _).mp h
      by_cases hne : c = '\n'
      · subst hne
        exact ih hu
      · rw [List.cons_append, seen_cons_of_isBlank hc hne, ih hu]

/-- **Trimming changes nothing that can be seen**, where a line has ended before. -/
theorem seen_trim (t : Text) : seen true (trim t) = seen true t := by
  obtain ⟨u, v, hu, hv, ht⟩ := exists_trim t
  conv_rhs => rw [ht]
  rw [seen_append_blank hv, seen_blank_append hu]

/-- Nor does taking away the carriage return at the end of a line. -/
theorem seen_dropReturn (l : Text) : seen ended (dropReturn l) = seen ended l := by
  obtain ⟨u, hu, hl⟩ := exists_dropReturn l
  conv_rhs => rw [hl, seen_append_blank hu]

/-! ### Lines -/

theorem seen_append_newline (ended : Bool) (t u : Text) :
    seen ended (t ++ '\n' :: u) = seen ended t ++ seen true u := by
  induction t generalizing ended with
  | nil => rfl
  | cons c t ih =>
      simp only [List.cons_append, seen, ih]
      split
      · rfl
      · split
        · rfl
        · rfl

/-- **What can be seen of texts on lines of their own.** -/
theorem seen_joinWith (ts : List Text) :
    seen true (joinWith ['\n'] ts) = ts.flatMap (seen true) := by
  induction ts with
  | nil => rfl
  | cons t ts ih =>
      cases ts with
      | nil => simp
      | cons u us =>
          rw [joinWith_cons_cons, List.append_assoc, List.singleton_append, seen_append_newline, ih,
            ← List.flatMap_cons]

theorem flatMap_linesOfPieces (ps : List Text) :
    (linesOfPieces ps).flatMap (seen true) = ps.flatMap (seen true) := by
  induction ps with
  | nil => rfl
  | cons p ps ih =>
      cases ps with
      | nil =>
          cases p with
          | nil => rfl
          | cons c p => rfl
      | cons q qs => rw [linesOfPieces, List.flatMap_cons, seen_dropReturn, ih, ← List.flatMap_cons]

/-- **What can be seen of a text is what can be seen of its lines.** -/
theorem flatMap_lines (t : Text) : (lines t).flatMap (seen true) = seen true t := by
  rw [lines, flatMap_linesOfPieces, ← seen_joinWith, joinWith_pieces]

end Text

end ChapterAssembly
