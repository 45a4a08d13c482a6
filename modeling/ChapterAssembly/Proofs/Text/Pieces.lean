/-
**Pieces, lines and trimmed texts.**

The parts of a text between occurrences of a character, those of a text put together from others,
and what trimming leaves of a line.

Main results:

* `Text.splitOnChar_append_cons`, `Text.splitOnChar_of_notMem` — the parts of a text, from the left;
* `Text.splitOnChar_joinWith` — the parts of texts with separators between them are those of the
  texts;
* `Text.notMem_of_mem_lines`, `Text.exists_line_of_isInfix` — no line feed is left in a line, and
  what holds none stays on one;
* `Text.lines_joinWith` — texts on lines of their own are the lines;
* `Text.isBlank_of_head?_trim`, `Text.isBlank_of_getLast?_trim` — what is trimmed neither starts
  nor ends with a blank character.
-/

import Mathlib.Data.List.Induction
import ChapterAssembly.Text.Basic

set_option relaxedAutoImplicit false
set_option autoImplicit false

namespace ChapterAssembly

namespace Text

variable {sep c : Char} {t l p : Text} {ts ps : List Text}

/-! ### Parts -/

/-- The parts of a text that starts with a separator. -/
theorem splitOnChar_cons_self (sep : Char) (t : Text) :
    splitOnChar sep (sep :: t) = [] :: splitOnChar sep t := by
  cases h : splitOnChar sep t with
  | nil => exact absurd h (splitOnChar_ne_nil sep t)
  | cons p ps => simp [splitOnChar, h]

/-- A character that is no separator belongs to the first part. -/
theorem splitOnChar_cons_of_ne (hc : c ≠ sep) (t : Text) :
    ∃ p ps, splitOnChar sep t = p :: ps ∧ splitOnChar sep (c :: t) = (c :: p) :: ps := by
  cases h : splitOnChar sep t with
  | nil => exact absurd h (splitOnChar_ne_nil sep t)
  | cons p ps => exact ⟨p, ps, rfl, by simp [splitOnChar, h, hc]⟩

/-- **The parts before a separator and those after it** are the parts of the whole. -/
theorem splitOnChar_append_cons (sep : Char) (a b : Text) :
    splitOnChar sep (a ++ sep :: b) = splitOnChar sep a ++ splitOnChar sep b := by
  induction a with
  | nil => exact splitOnChar_cons_self sep b
  | cons c a ih =>
      rw [List.cons_append]
      by_cases hc : c = sep
      · subst hc
        rw [splitOnChar_cons_self, splitOnChar_cons_self, ih, List.cons_append]
      · obtain ⟨p, ps, h, h'⟩ := splitOnChar_cons_of_ne hc a
        obtain ⟨q, qs, hq, hq'⟩ := splitOnChar_cons_of_ne hc (a ++ sep :: b)
        rw [ih, h, List.cons_append, List.cons.injEq] at hq
        rw [hq', h', ← hq.1, ← hq.2, List.cons_append]

/-- A text without separators is its only part. -/
theorem splitOnChar_of_notMem (h : sep ∉ t) : splitOnChar sep t = [t] := by
  induction t with
  | nil => rfl
  | cons c t ih =>
      obtain ⟨hc, ht⟩ : sep ≠ c ∧ sep ∉ t := by simpa using h
      obtain ⟨p, ps, hp, hp'⟩ := splitOnChar_cons_of_ne (Ne.symm hc) t
      rw [ih ht, List.cons.injEq] at hp
      rw [hp', ← hp.1, ← hp.2]

/-- A text without separators goes in front of the first part. -/
theorem splitOnChar_append_of_notMem (h : sep ∉ l) (hp : splitOnChar sep t = p :: ps) :
    splitOnChar sep (l ++ t) = (l ++ p) :: ps := by
  induction l with
  | nil => exact hp
  | cons c l ih =>
      obtain ⟨hc, hl⟩ : sep ≠ c ∧ sep ∉ l := by simpa using h
      obtain ⟨q, qs, hq, hq'⟩ := splitOnChar_cons_of_ne (Ne.symm hc) (l ++ t)
      rw [ih hl, List.cons.injEq] at hq
      rw [List.cons_append, hq', ← hq.1, ← hq.2, List.cons_append]

/-- The first part of a text is the end of a part, whatever goes in front of the text. -/
theorem exists_mem_splitOnChar_append (hp : splitOnChar sep t = p :: ps) (l : Text) :
    ∃ q, q ++ p ∈ splitOnChar sep (l ++ t) := by
  induction l with
  | nil => exact ⟨[], by simp [hp]⟩
  | cons c l ih =>
      obtain ⟨q, hq⟩ := ih
      rw [List.cons_append]
      by_cases hc : c = sep
      · subst hc
        rw [splitOnChar_cons_self]
        exact ⟨q, List.mem_cons_of_mem _ hq⟩
      · obtain ⟨r, rs, hr, hr'⟩ := splitOnChar_cons_of_ne hc (l ++ t)
        rw [hr, List.mem_cons] at hq
        rw [hr']
        rcases hq with rfl | hq
        · exact ⟨c :: q, by simp⟩
        · exact ⟨q, List.mem_cons_of_mem _ hq⟩

/-- **What holds no separator stays in one part.** -/
theorem exists_part_of_isInfix (h : sep ∉ l) (hl : l <:+: t) :
    ∃ p ∈ splitOnChar sep t, l <:+: p := by
  obtain ⟨a, b, rfl⟩ := hl
  obtain ⟨p, ps, hp⟩ := List.exists_cons_of_ne_nil (splitOnChar_ne_nil sep b)
  obtain ⟨q, hq⟩ := exists_mem_splitOnChar_append (splitOnChar_append_of_notMem h hp) a
  rw [← List.append_assoc a] at hq
  exact ⟨_, hq, q, p, by simp⟩

/-- No separator is left in a part. -/
theorem notMem_of_mem_splitOnChar (h : p ∈ splitOnChar sep t) : sep ∉ p := by
  induction t generalizing p with
  | nil =>
      obtain rfl : p = [] := by simpa [splitOnChar] using h
      simp
  | cons c t ih =>
      by_cases hc : c = sep
      · subst hc
        rw [splitOnChar_cons_self, List.mem_cons] at h
        rcases h with rfl | h
        · simp
        · exact ih h
      · obtain ⟨q, qs, hq, hq'⟩ := splitOnChar_cons_of_ne hc t
        rw [hq', List.mem_cons] at h
        rcases h with rfl | h
        · have hq : sep ∉ q := ih (by simp [hq])
          simpa [hq] using Ne.symm hc
        · exact ih (by simp [hq, h])

/-- Texts with a separator between each two, and then others. -/
theorem joinWith_append {s : Text} (hts : ts ≠ []) (hps : ps ≠ []) :
    joinWith s (ts ++ ps) = joinWith s ts ++ s ++ joinWith s ps := by
  induction ts with
  | nil => exact absurd rfl hts
  | cons t ts ih =>
      cases ts with
      | nil =>
          obtain ⟨p, ps, rfl⟩ := List.exists_cons_of_ne_nil hps
          rfl
      | cons u us =>
          have hrest : joinWith s (u :: (us ++ ps)) =
              joinWith s (u :: us) ++ s ++ joinWith s ps := ih (by simp)
          rw [List.cons_append, List.cons_append, joinWith_cons_cons, joinWith_cons_cons, hrest]
          simp only [List.append_assoc]

/-- **The parts of texts with separators between them**, those of one text after those of the
other. -/
theorem splitOnChar_joinWith (hne : ts ≠ []) :
    splitOnChar sep (joinWith [sep] ts) = ts.flatMap (splitOnChar sep) := by
  induction ts with
  | nil => exact absurd rfl hne
  | cons t ts ih =>
      cases ts with
      | nil => simp
      | cons u us =>
          rw [joinWith_cons_cons, List.append_assoc, List.singleton_append,
            splitOnChar_append_cons, ih (by simp)]
          rfl

/-- Texts without separators are the parts of what they are joined to. -/
theorem splitOnChar_joinWith_of_notMem (hne : ts ≠ []) (h : ∀ t ∈ ts, sep ∉ t) :
    splitOnChar sep (joinWith [sep] ts) = ts := by
  rw [splitOnChar_joinWith hne]
  clear hne
  induction ts with
  | nil => rfl
  | cons t ts ih =>
      obtain ⟨ht, hts⟩ := List.forall_mem_cons.1 h
      rw [List.flatMap_cons, splitOnChar_of_notMem ht, ih hts, List.singleton_append]

/-- **The parts of texts with separators between them** are those of the texts; without any text
there is one part, in which nothing stands. -/
theorem mem_splitOnChar_joinWith (h : p ∈ splitOnChar sep (joinWith [sep] ts)) :
    p = [] ∨ ∃ t ∈ ts, p ∈ splitOnChar sep t := by
  by_cases hts : ts = []
  · subst hts
    exact .inl (by simpa [splitOnChar] using h)
  · rw [splitOnChar_joinWith hts] at h
    exact .inr (List.mem_flatMap.1 h)

/-! ### Lines -/

theorem dropReturn_subset (l : Text) : dropReturn l ⊆ l := by
  unfold dropReturn
  split
  · exact List.dropLast_subset l
  · exact List.Subset.refl l

/-- Every line is a piece, perhaps without a carriage return. -/
theorem exists_subset_of_mem_linesOfPieces (h : l ∈ linesOfPieces ps) :
    ∃ p ∈ ps, l ⊆ p := by
  induction ps with
  | nil => cases h
  | cons p ps ih =>
      cases ps with
      | nil =>
          refine ⟨p, by simp, ?_⟩
          rw [linesOfPieces] at h
          split at h
          · cases h
          · exact fun c hc => List.mem_singleton.1 h ▸ hc
      | cons q qs =>
          rcases List.mem_cons.1 h with rfl | h
          · exact ⟨p, by simp, dropReturn_subset p⟩
          · obtain ⟨p', hp', hl⟩ := ih h
            exact ⟨p', List.mem_cons_of_mem _ hp', hl⟩

/-- **No line feed is left in a line.** -/
theorem notMem_of_mem_lines (h : l ∈ lines t) : '\n' ∉ l := by
  obtain ⟨p, hp, hl⟩ := exists_subset_of_mem_linesOfPieces h
  exact fun hc => notMem_of_mem_splitOnChar hp (hl hc)

/-- A carriage return that is dropped is none of a part which does not end with one. -/
theorem isInfix_dropReturn (hl : l.getLast? ≠ some '\r') (h : l <:+: p) : l <:+: dropReturn p := by
  unfold dropReturn
  split
  · next hlast =>
      obtain ⟨a, b, rfl⟩ := h
      cases b using List.reverseRecOn with
      | nil =>
          rw [List.append_nil] at hlast ⊢
          cases l using List.reverseRecOn with
          | nil => exact List.nil_infix
          | append_singleton l c =>
              rw [← List.append_assoc, List.getLast?_concat] at hlast
              rw [List.getLast?_concat] at hl
              exact absurd hlast hl
      | append_singleton b c =>
          rw [← List.append_assoc, List.dropLast_concat]
          exact ⟨a, b, rfl⟩
  · exact h

/-- What stands in a piece stands in a line. -/
theorem exists_line_of_mem (hne : l ≠ []) (hl : l.getLast? ≠ some '\r') (hp : p ∈ ps)
    (h : l <:+: p) : ∃ q ∈ linesOfPieces ps, l <:+: q := by
  induction ps with
  | nil => cases hp
  | cons q qs ih =>
      cases qs with
      | nil =>
          obtain rfl := List.mem_singleton.1 hp
          have hpne : p ≠ [] := fun hnil => hne (List.infix_nil.1 (hnil ▸ h))
          exact ⟨p, by simp [linesOfPieces, hpne], h⟩
      | cons r rs =>
          rw [linesOfPieces]
          rcases List.mem_cons.1 hp with rfl | hp
          · exact ⟨_, List.mem_cons_self, isInfix_dropReturn hl h⟩
          · obtain ⟨u, hu, hlu⟩ := ih hp
            exact ⟨u, List.mem_cons_of_mem _ hu, hlu⟩

/-- **What holds no line feed stays on one line**, unless a carriage return ends it. -/
theorem exists_line_of_isInfix (hne : l ≠ []) (hfeed : '\n' ∉ l) (hl : l.getLast? ≠ some '\r')
    (h : l <:+: t) : ∃ q ∈ lines t, l <:+: q := by
  obtain ⟨p, hp, hlp⟩ := exists_part_of_isInfix hfeed h
  exact exists_line_of_mem hne hl hp hlp

/-- Pieces are the lines if none ends with a carriage return and something stands in the last. -/
theorem linesOfPieces_eq_self (h : ∀ p ∈ ps, p.getLast? ≠ some '\r')
    (hlast : ps.getLast? ≠ some []) : linesOfPieces ps = ps := by
  induction ps with
  | nil => rfl
  | cons p ps ih =>
      obtain ⟨hp, hps⟩ := List.forall_mem_cons.1 h
      cases ps with
      | nil =>
          have hne : p ≠ [] := fun hnil => hlast (by rw [hnil]; rfl)
          rw [linesOfPieces, if_neg (by simpa using hne)]
      | cons q qs =>
          rw [List.getLast?_cons_cons] at hlast
          rw [linesOfPieces, dropReturn, if_neg hp, ih hps hlast]

/-- **Texts on lines of their own are the lines**, if no line feed stands in them, none ends with a
carriage return, and the last is not empty. -/
theorem lines_joinWith (hne : ts ≠ []) (hfeed : ∀ t ∈ ts, '\n' ∉ t)
    (hreturn : ∀ t ∈ ts, t.getLast? ≠ some '\r') (hlast : ts.getLast? ≠ some []) :
    lines (joinWith ['\n'] ts) = ts := by
  rw [lines, pieces, splitOnChar_joinWith_of_notMem hne hfeed, linesOfPieces_eq_self hreturn hlast]

/-! ### Trimmed texts -/

theorem trimStart_subset (t : Text) : trimStart t ⊆ t := (List.dropWhile_sublist _).subset

theorem trim_subset (t : Text) : trim t ⊆ t := fun c hc => by
  have hc : c ∈ trimStart (trimStart t).reverse := List.mem_reverse.1 hc
  exact trimStart_subset t (List.mem_reverse.1 (trimStart_subset _ hc))

/-- What is trimmed at its start does not start with a blank character. -/
theorem isBlank_of_head?_trimStart (h : (trimStart t).head? = some c) : isBlank c = false := by
  have := List.head?_dropWhile_not isBlank t
  rw [show t.dropWhile isBlank = trimStart t from rfl, h] at this
  exact this

/-- **What is trimmed** starts and ends, unless nothing is left, with characters that are not
blank. -/
theorem isBlank_of_head?_trim (h : (trim t).head? = some c) : isBlank c = false := by
  rw [trim, ← trimStart_trimEnd_trimStart] at h
  exact isBlank_of_head?_trimStart h

theorem isBlank_of_getLast?_trim (h : (trim t).getLast? = some c) : isBlank c = false := by
  rw [trim, trimEnd, List.getLast?_reverse] at h
  exact isBlank_of_head?_trimStart h

/-- Nothing is trimmed at an end that is not blank. -/
theorem trimStart_eq_self (h : ∀ c, t.head? = some c → isBlank c = false) : trimStart t = t := by
  cases t with
  | nil => rfl
  | cons c t => exact trimStart_cons_of_not_isBlank (h c rfl)

theorem trimEnd_eq_self (h : ∀ c, t.getLast? = some c → isBlank c = false) : trimEnd t = t := by
  rw [trimEnd, trimStart_eq_self (by simpa using h), List.reverse_reverse]

end Text

end ChapterAssembly
