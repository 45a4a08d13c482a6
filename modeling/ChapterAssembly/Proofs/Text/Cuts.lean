/-
**Cutting texts at separators.**

A separator of two equal characters is found from the left.  It is found where it was put, behind a
text that neither has one nor ends with the character, since then no other one begins before it.

Main results:

* `Text.cutAt?_eq_none_iff` — a text is not cut just if the separator is nowhere in it;
* `Text.cutAt?_double` — a text is cut at the separator that was put in it;
* `Text.splitOnText_joinWith` — **texts with separators between them are found again**;
* `Text.cutAtLast?_append` — a text is cut at the last occurrence of a character;
* `Text.trim_append_cons` — trimming keeps a character that is not blank, and what is inside;
* `Text.trim_append_blank` — trimming takes away what is blank at the end.
-/

import Mathlib.Data.List.TakeDrop
import Mathlib.Data.List.TakeWhile
import ChapterAssembly.Proofs.Text.Pieces

set_option relaxedAutoImplicit false
set_option autoImplicit false

namespace ChapterAssembly

namespace Text

variable {c : Char} {p t a b : Text} {ts : List Text}

/-! ### The first occurrence -/

/-- A text has a prefix just if something follows it. -/
theorem afterPrefix?_eq_none_iff : afterPrefix? p t = none ↔ ¬ p <+: t := by
  constructor
  · rintro h ⟨r, rfl⟩
    rw [afterPrefix?_append] at h
    cases h
  · intro h
    cases hr : afterPrefix? p t with
    | none => rfl
    | some r => exact absurd ⟨r, (eq_append_of_afterPrefix? hr).symm⟩ h

/-- **A text is not cut just if the separator is nowhere in it.** -/
theorem cutAt?_eq_none_iff : cutAt? p t = none ↔ ¬ p <:+: t := by
  constructor
  · rintro h ⟨a, b, rfl⟩
    -- the text before the separator is walked through, unless a cut comes first
    induction a with
    | nil =>
        cases p with
        | nil => cases b <;> simp [cutAt?, afterPrefix?] at h
        | cons d p =>
            have hafter := afterPrefix?_append (d :: p) b
            rw [List.cons_append] at hafter
            simp only [List.nil_append, List.cons_append, cutAt?, hafter, reduceCtorEq] at h
    | cons x a ih =>
        simp only [List.cons_append, cutAt?] at h
        split at h
        · cases h
        · exact ih (Option.map_eq_none_iff.1 h)
  · intro h
    cases hc : cutAt? p t with
    | none => rfl
    | some ab =>
        obtain ⟨a, b⟩ := ab
        exact absurd ⟨a, b, (cutAt?_eq_append hc).symm⟩ h

/-- **A text is cut at the separator that was put in it**, behind a text that has none and does not
end with its character. -/
theorem cutAt?_double (h : ¬ [c, c] <:+: a) (hl : a.getLast? ≠ some c) (b : Text) :
    cutAt? [c, c] (a ++ [c, c] ++ b) = some (a, b) := by
  induction a with
  | nil =>
      have hafter : afterPrefix? [c, c] (c :: c :: b) = some b := afterPrefix?_append [c, c] b
      simp only [List.nil_append, List.cons_append, cutAt?, hafter]
  | cons x a ih =>
      have hrest : cutAt? [c, c] (a ++ [c, c] ++ b) = some (a, b) := by
        refine ih (fun hi => h (List.infix_cons hi)) fun hlast => hl ?_
        cases a with
        | nil => cases hlast
        | cons y a => rwa [List.getLast?_cons_cons]
      -- no separator begins at `x`, neither inside `a` nor across its end
      have hnone : afterPrefix? [c, c] (x :: (a ++ [c, c] ++ b)) = none := by
        rw [afterPrefix?_eq_none_iff]
        rintro ⟨r, hr⟩
        obtain ⟨rfl, htail⟩ := List.cons.inj hr
        cases a with
        | nil => exact hl rfl
        | cons y a =>
            obtain ⟨rfl, -⟩ := List.cons.inj htail
            exact h ⟨[], a, rfl⟩
      rw [List.cons_append, List.cons_append, cutAt?, hnone, hrest]
      rfl

/-- **Where a text is cut**: at the first separator of it. -/
theorem cutAt?_double_eq_some_iff : cutAt? [c, c] t = some (a, b) ↔
    t = a ++ [c, c] ++ b ∧ ¬ [c, c] <:+: a ∧ a.getLast? ≠ some c := by
  constructor
  · intro h
    refine ⟨cutAt?_eq_append h, ?_⟩
    induction t generalizing a with
    | nil => simp [cutAt?] at h
    | cons x t ih =>
        rw [cutAt?] at h
        split at h
        · obtain ⟨rfl, -⟩ : [] = a ∧ _ = b := by simpa using h
          simp
        · next hnone =>
            obtain ⟨⟨a', b'⟩, hcut, heq⟩ := Option.map_eq_some_iff.1 h
            obtain ⟨rfl, rfl⟩ : x :: a' = a ∧ b' = b := by simpa using heq
            obtain ⟨hin, hlast⟩ := ih hcut
            have ht := cutAt?_eq_append hcut
            rw [afterPrefix?_eq_none_iff] at hnone
            cases a' with
            | nil =>
                -- the separator would begin at `x`
                have hx : x ≠ c := fun hxc => hnone ⟨c :: b', by simp [ht, hxc]⟩
                simpa [List.infix_cons_iff, List.cons_prefix_cons] using hx
            | cons y a' =>
                rw [List.getLast?_cons_cons]
                refine ⟨fun hi => (List.infix_cons_iff.1 hi).elim (fun hp => hnone ?_) hin, hlast⟩
                rw [ht]
                exact hp.trans ⟨[c, c] ++ b', by simp⟩
  · rintro ⟨rfl, h, hl⟩
    exact cutAt?_double h hl b

/-! ### All occurrences -/

theorem splitOnText_of_notInfix (h : ¬ p <:+: t) : splitOnText p t = [t] := by
  rw [splitOnText]
  split
  · rfl
  · next a b hc => simp [cutAt?_eq_none_iff.2 h] at hc

theorem splitOnText_of_cut (hp : p ≠ []) (h : cutAt? p t = some (a, b)) :
    splitOnText p t = a :: splitOnText p b := by
  rw [splitOnText]
  split
  · next hc => simp [h] at hc
  · next a' b' hc =>
      obtain ⟨rfl, rfl⟩ : a = a' ∧ b = b' := by simpa [h] using hc
      rw [dif_neg hp]

theorem splitOnText_ne_nil (p t : Text) : splitOnText p t ≠ [] := by
  rw [splitOnText]
  split
  · simp
  · split <;> simp

/-- A text has one part just if no separator is in it. -/
theorem splitOnText_eq_singleton_iff (hp : p ≠ []) :
    splitOnText p t = [a] ↔ ¬ p <:+: t ∧ a = t := by
  constructor
  · intro h
    cases hcut : cutAt? p t with
    | none =>
        have hnone := cutAt?_eq_none_iff.1 hcut
        rw [splitOnText_of_notInfix hnone] at h
        exact ⟨hnone, (List.singleton_inj.1 h).symm⟩
    | some uv =>
        obtain ⟨u, v⟩ := uv
        rw [splitOnText_of_cut hp hcut, List.cons.injEq] at h
        exact absurd h.2 (splitOnText_ne_nil p v)
  · rintro ⟨h, rfl⟩
    exact splitOnText_of_notInfix h

/-- **Texts with separators between them are found again**, if none has a separator in it or ends
with its character. -/
theorem splitOnText_joinWith (hne : ts ≠ []) (h : ∀ t ∈ ts, ¬ [c, c] <:+: t)
    (hl : ∀ t ∈ ts, t.getLast? ≠ some c) : splitOnText [c, c] (joinWith [c, c] ts) = ts := by
  induction ts with
  | nil => exact absurd rfl hne
  | cons t ts ih =>
      cases ts with
      | nil => exact splitOnText_of_notInfix (h t (by simp))
      | cons u ts =>
          have hcut := cutAt?_double (h t (by simp)) (hl t (by simp)) (joinWith [c, c] (u :: ts))
          rw [joinWith_cons_cons, splitOnText_of_cut (by simp) hcut]
          have hrest := ih (by simp) (fun v hv => h v (List.mem_cons_of_mem t hv))
            fun v hv => hl v (List.mem_cons_of_mem t hv)
          rw [hrest]

/-! ### The last occurrence -/

/-- A text without a character is without it from its end as well. -/
theorem forall_mem_reverse_bne (h : c ∉ t) : ∀ x ∈ t.reverse, (x != c) = true := by
  intro x hx
  rw [bne_iff_ne]
  rintro rfl
  exact h (List.mem_reverse.1 hx)

/-- **A text is cut at the last occurrence of a character.** -/
theorem cutAtLast?_append (h : c ∉ b) (a : Text) : cutAtLast? c (a ++ c :: b) = some (a, b) := by
  have hall := forall_mem_reverse_bne h
  have hspan : (a ++ c :: b).reverse.span (· != c) = (b.reverse, c :: a.reverse) := by
    rw [List.span_eq_takeWhile_dropWhile, List.reverse_append, List.reverse_cons,
      List.append_assoc, List.singleton_append]
    simp [List.takeWhile_append_of_pos hall, List.dropWhile_append_of_pos hall]
  simp only [cutAtLast?, hspan, List.reverse_reverse]

theorem cutAtLast?_of_notMem (h : c ∉ t) : cutAtLast? c t = none := by
  have hall := forall_mem_reverse_bne h
  have hspan : t.reverse.span (· != c) = (t.reverse, []) := by
    rw [List.span_eq_takeWhile_dropWhile, Prod.mk.injEq]
    exact ⟨List.takeWhile_eq_self_iff.2 hall, List.dropWhile_eq_nil_iff.2 hall⟩
  simp only [cutAtLast?, hspan]

/-! ### Trimming -/

theorem trimStart_append_cons (hc : isBlank c = false) (a b : Text) :
    trimStart (a ++ c :: b) = trimStart a ++ c :: b := by
  induction a with
  | nil => exact trimStart_cons_of_not_isBlank hc
  | cons x a ih =>
      by_cases hx : isBlank x = true
      · simpa [trimStart, hx] using ih
      · simp [trimStart, hx]

theorem trimEnd_append_cons (hc : isBlank c = false) (a b : Text) :
    trimEnd (a ++ c :: b) = a ++ c :: trimEnd b := by
  have hreverse : (a ++ c :: b).reverse = b.reverse ++ c :: a.reverse := by simp
  rw [trimEnd, hreverse, trimStart_append_cons hc]
  simp [trimEnd]

/-- **Trimming keeps a character that is not blank**, and what is inside. -/
theorem trim_append_cons (hc : isBlank c = false) (a b : Text) :
    trim (a ++ c :: b) = trimStart a ++ c :: trimEnd b := by
  rw [trim, trimStart_append_cons hc, trimEnd_append_cons hc]

/-- **What neither starts nor ends with a blank character stays** when what it stands in is
trimmed. -/
theorem isInfix_trim {d : Char} (hc : isBlank c = false) (hd : isBlank d = false) {l : Text}
    (h : c :: (l ++ [d]) <:+: t) : c :: (l ++ [d]) <:+: trim t := by
  obtain ⟨a, b, rfl⟩ := h
  have hinside : a ++ c :: (l ++ [d]) ++ b = a ++ c :: (l ++ d :: b) := by simp
  rw [hinside, trim_append_cons hc, trimEnd_append_cons hd]
  exact ⟨trimStart a, trimEnd b, by simp⟩

@[simp] theorem trim_trimStart (t : Text) : trim (trimStart t) = trim t := by
  rw [trim, trimStart_trimStart, trim]

/-- **Nothing is left of a blank text**, and of no other. -/
theorem trim_eq_nil_iff : trim t = [] ↔ isBlankText t = true := by
  have hreverse : isBlankText (trimStart t).reverse = isBlankText (trimStart t) := by
    simp [isBlankText]
  rw [trim, trimEnd, List.reverse_eq_nil_iff, trimStart_eq_nil_iff, hreverse,
    ← trimStart_eq_nil_iff, trimStart_trimStart, trimStart_eq_nil_iff]

/-- Texts on lines of their own are blank just if all are. -/
theorem isBlankText_joinWith (ts : List Text) :
    isBlankText (joinWith ['\n'] ts) = ts.all isBlankText := by
  induction ts with
  | nil => rfl
  | cons t ts ih =>
      cases ts with
      | nil => simp
      | cons u us =>
          have hfeed : isBlankText ['\n'] = true := by decide
          have happend : ∀ a b : Text, isBlankText (a ++ b) = (isBlankText a && isBlankText b) :=
            fun a b => List.all_append
          rw [joinWith_cons_cons, happend, happend, ih, hfeed, Bool.and_true]
          rfl

theorem isEmpty_trim (t : Text) : (trim t).isEmpty = isBlankText t := by
  rw [Bool.eq_iff_iff, List.isEmpty_iff, trim_eq_nil_iff]

/-- A text is its blank beginning and what trimming its start leaves. -/
theorem exists_trimStart (t : Text) : ∃ u, isBlankText u = true ∧ t = u ++ trimStart t :=
  ⟨t.takeWhile isBlank, List.all_takeWhile, (List.takeWhile_append_dropWhile).symm⟩

theorem exists_trimEnd (t : Text) : ∃ u, isBlankText u = true ∧ t = trimEnd t ++ u := by
  obtain ⟨u, hu, ht⟩ := exists_trimStart t.reverse
  refine ⟨u.reverse, by simpa [isBlankText] using hu, ?_⟩
  rw [trimEnd, ← List.reverse_append, ← ht, List.reverse_reverse]

/-- **A text is what trimming leaves, with blank characters around it.** -/
theorem exists_trim (t : Text) : ∃ u v, isBlankText u = true ∧ isBlankText v = true ∧
    t = u ++ trim t ++ v := by
  obtain ⟨u, hu, ht⟩ := exists_trimStart t
  obtain ⟨v, hv, ht'⟩ := exists_trimEnd (trimStart t)
  refine ⟨u, v, hu, hv, ?_⟩
  rw [trim, List.append_assoc, ← ht', ← ht]

theorem trimStart_trimEnd (t : Text) : trimStart (trimEnd t) = trimEnd (trimStart t) := by
  obtain ⟨u, hu, ht⟩ := exists_trimStart t
  have hu : trimStart u = [] := trimStart_eq_nil_iff.2 hu
  cases h : trimStart t with
  | nil =>
      rw [h, List.append_nil] at ht
      have hend : trimEnd t = [] := by
        rw [trimEnd, List.reverse_eq_nil_iff, trimStart_eq_nil_iff]
        simpa [isBlankText] using trimStart_eq_nil_iff.1 h
      rw [hend]
      rfl
  | cons c b =>
      have hc : isBlank c = false := isBlank_of_head?_trimStart (by rw [h]; rfl)
      rw [h] at ht
      rw [ht, trimEnd_append_cons hc, trimStart_append_cons hc, hu, List.nil_append,
        trimEnd_cons_of_not_isBlank hc]

@[simp] theorem trim_trimEnd (t : Text) : trim (trimEnd t) = trim t := by
  rw [trim, trimStart_trimEnd, trimEnd_trimEnd, trim]

/-- **Blank characters at the end are trimmed away.** -/
theorem trim_append_blank (h : isBlankText b = true) (a : Text) : trim (a ++ b) = trim a := by
  have hall : ∀ c ∈ b.reverse, isBlank c = true := fun c hc =>
    List.all_eq_true.1 h c (List.mem_reverse.1 hc)
  have hend : trimEnd (a ++ b) = trimEnd a := by
    rw [trimEnd, List.reverse_append, trimStart, List.dropWhile_append_of_pos hall]
    rfl
  rw [← trim_trimEnd, hend, trim_trimEnd]

/-- A line is what stands in it, with blank characters at its end. -/
theorem exists_dropReturn (l : Text) : ∃ u, isBlankText u = true ∧ l = dropReturn l ++ u := by
  unfold dropReturn
  split
  · next hlast =>
      obtain ⟨t, rfl⟩ := List.getLast?_eq_some_iff.1 hlast
      exact ⟨['\r'], by decide, by rw [List.dropLast_concat]⟩
  · exact ⟨[], rfl, (List.append_nil l).symm⟩

@[simp] theorem trim_dropReturn (l : Text) : trim (dropReturn l) = trim l := by
  obtain ⟨u, hu, hl⟩ := exists_dropReturn l
  conv_rhs => rw [hl, trim_append_blank hu]

end Text

end ChapterAssembly
