/-
**What is wrong with a rule.**

A text is no rule if it is blank, or if an alternative of it has a pattern that is no regular
expression or a selector that is none.  Every alternative is looked at, also one that no page would
ever come to, and the leftmost fault is the one that is told; in one alternative the pattern counts
before the selector.

Main definitions:

* `Rule.patternOf`, `Rule.selectorOf` — the pattern and the selector of an alternative;
* `Rule.Fault` — what is wrong with an alternative;
* `Rule.Faulty` — what is wrong with a rule.

Main results:

* `Except.mapM_eq_ok_iff`, `Except.mapM_eq_error_iff` — a list of tasks succeeds in all of them, or
  fails as the first that does;
* `Rule.Alternative.parse_eq_error_iff` — an alternative cannot be read just if it has a fault;
* `Rule.parse_eq_error_iff` — **a rule cannot be read just if it is blank or an alternative has a
  fault**, and the error is that of the leftmost;
* `Rule.parse_eq_ok_iff` — a rule that can be read has the alternatives of its text.
-/

import Mathlib.Data.List.Forall2
import ChapterAssembly.Rule.Parse

set_option relaxedAutoImplicit false
set_option autoImplicit false

/-! ### Tasks that may fail, one after the other -/

namespace Except

variable {ε α β : Type} {f : α → Except ε β} {as : List α}

/-- **All tasks succeed**, each with its result. -/
theorem mapM_eq_ok_iff {bs : List β} :
    as.mapM f = .ok bs ↔ List.Forall₂ (fun a b => f a = .ok b) as bs := by
  induction as generalizing bs with
  | nil => cases bs <;> simp [pure, Except.pure]
  | cons a as ih =>
      rw [List.mapM_cons]
      cases ha : f a with
      | error e => cases bs <;> simp [bind, Except.bind, ha]
      | ok b =>
          cases has : as.mapM f with
          | error e => cases bs <;> simp [bind, Except.bind, has, ha, ← ih]
          | ok cs => cases bs <;> simp [bind, Except.bind, pure, Except.pure, has, ha, ← ih]

/-- **A task fails**, and those before it succeed. -/
theorem mapM_eq_error_iff {e : ε} :
    as.mapM f = .error e ↔ ∃ before a after, as = before ++ a :: after ∧
      (∀ b ∈ before, ∀ e', f b ≠ .error e') ∧ f a = .error e := by
  induction as with
  | nil => simp [pure, Except.pure]
  | cons a as ih =>
      rw [List.mapM_cons]
      cases ha : f a with
      | error e' =>
          constructor
          · intro h
            obtain rfl : e' = e := by simpa [bind, Except.bind] using h
            exact ⟨[], a, as, rfl, by simp, ha⟩
          · rintro ⟨before, b, after, heq, hbefore, hb⟩
            cases before with
            | nil =>
                obtain ⟨rfl, -⟩ := List.cons.inj heq
                rw [← ha, hb]
                rfl
            | cons c before =>
                obtain ⟨rfl, -⟩ := List.cons.inj heq
                exact absurd ha (hbefore a List.mem_cons_self e')
      | ok b =>
          have hrest : (do return b :: (← as.mapM f)) = .error e ↔ as.mapM f = .error e := by
            cases as.mapM f <;> simp [bind, Except.bind, pure, Except.pure]
          refine hrest.trans (ih.trans ?_)
          constructor
          · rintro ⟨before, c, after, rfl, hbefore, hc⟩
            refine ⟨a :: before, c, after, rfl, ?_, hc⟩
            exact List.forall_mem_cons.2 ⟨by simp [ha], hbefore⟩
          · rintro ⟨before, c, after, heq, hbefore, hc⟩
            cases before with
            | nil =>
                obtain ⟨rfl, -⟩ := List.cons.inj heq
                simp [ha] at hc
            | cons d before =>
                obtain ⟨rfl, rfl⟩ := List.cons.inj heq
                exact ⟨before, c, after, rfl, (List.forall_mem_cons.1 hbefore).2, hc⟩

end Except

namespace ChapterAssembly

namespace Rule

variable {a rule : Text} {e : RuleError}

/-! ### Alternatives -/

/-- The pattern of an alternative. -/
def patternOf (a : Text) : Option Text := (splitSubstitution a).2.map Prod.fst

/-- The selector of an alternative, if it selects anything. -/
def selectorOf (a : Text) : Option Text :=
  let selector := Text.trim (splitExtract (Text.trim (splitSubstitution a).1)).1
  if selector.isEmpty then none else some selector

/-- **What is wrong with an alternative**: its pattern, or else its selector. -/
inductive Fault (a : Text) : RuleError → Prop where
  | pattern {p : Text} (hp : patternOf a = some p) (hr : Regex.parse p = none) : Fault a (.regex p)
  | selector {s : Text} (hp : ∀ p, patternOf a = some p → Regex.parse p ≠ none)
      (hs : selectorOf a = some s) (hn : Selector.parse s = none) :
      Fault a (.selector s RuleError.noSelector)

theorem Substitution.parse_eq_error_iff {p r : Text} :
    Substitution.parse p r = .error e ↔ Regex.parse p = none ∧ e = .regex p := by
  unfold Substitution.parse
  cases Regex.parse p <;> simp [eq_comm]

/-- The head of an alternative has a fault just if its selector is none. -/
theorem Target.parse_eq_error_iff {head : Text} :
    Target.parse head = .error e ↔
      Text.trim (splitExtract (Text.trim head)).1 ≠ [] ∧
      Selector.parse (Text.trim (splitExtract (Text.trim head)).1) = none ∧
      e = .selector (Text.trim (splitExtract (Text.trim head)).1) RuleError.noSelector := by
  unfold Target.parse
  generalize splitExtract (Text.trim head) = parts
  obtain ⟨selector, extract⟩ := parts
  by_cases hs : Text.trim selector = []
  · cases extract <;> simp [hs]
  · cases hp : Selector.parse (Text.trim selector) with
    | none => simpa [hs, hp] using eq_comm
    | some s => simp [hs, hp]

/-- **An alternative cannot be read just if it has a fault.** -/
theorem Alternative.parse_eq_error_iff : Alternative.parse a = .error e ↔ Fault a e := by
  unfold Alternative.parse
  have hmap : ∀ (head : Text) (f : Target → Alternative),
      (Target.parse head).map f = .error e ↔ Target.parse head = .error e := by
    intro head f
    cases Target.parse head <;> simp [Except.map]
  constructor
  · intro h
    split at h
    · next head hsplit =>
        obtain ⟨hne, hnone, rfl⟩ := Target.parse_eq_error_iff.1 ((hmap _ _).1 h)
        refine .selector (by simp [patternOf, hsplit]) ?_ hnone
        simp [selectorOf, hsplit, hne]
    · next head p r hsplit =>
        cases hp : Substitution.parse p r with
        | error e' =>
            rw [hp] at h
            obtain rfl : e' = e := by simpa using h
            obtain ⟨hnone, rfl⟩ := Substitution.parse_eq_error_iff.1 hp
            exact .pattern (by simp [patternOf, hsplit]) hnone
        | ok s =>
            rw [hp] at h
            obtain ⟨hne, hnone, rfl⟩ := Target.parse_eq_error_iff.1 ((hmap _ _).1 h)
            refine .selector ?_ (by simp [selectorOf, hsplit, hne]) hnone
            intro p' hp' hregex
            obtain rfl : p = p' := by simpa [patternOf, hsplit] using hp'
            rw [Substitution.parse_eq_error_iff (e := .regex p) |>.2 ⟨hregex, rfl⟩] at hp
            cases hp
  · intro h
    cases h with
    | @pattern p hp hr =>
        obtain ⟨head, r, hsplit⟩ : ∃ head r, splitSubstitution a = (head, some (p, r)) := by
          obtain ⟨⟨p', r⟩, hsome, rfl⟩ := Option.map_eq_some_iff.1 hp
          exact ⟨(splitSubstitution a).1, r, by rw [← hsome]⟩
        rw [hsplit]
        simp only [Substitution.parse_eq_error_iff.2 ⟨hr, rfl⟩]
    | @selector s hp hs hn =>
        have htarget : Target.parse (splitSubstitution a).1 =
            .error (.selector s RuleError.noSelector) := by
          simp only [selectorOf, List.isEmpty_iff] at hs
          split at hs
          · cases hs
          · next hne =>
              obtain rfl := Option.some.inj hs
              exact Target.parse_eq_error_iff.2 ⟨hne, hn, rfl⟩
        split
        · next head hsplit =>
            rw [hsplit] at htarget
            exact (hmap _ _).2 htarget
        · next head p r hsplit =>
            rw [hsplit] at htarget
            cases hsub : Substitution.parse p r with
            | error e' =>
                obtain ⟨hnone, -⟩ := Substitution.parse_eq_error_iff.1 hsub
                exact absurd hnone (hp p (by simp [patternOf, hsplit]))
            | ok s => exact (hmap _ _).2 htarget

/-! ### Rules -/

/-- **What is wrong with a rule**: that it is blank, or what is wrong with its leftmost alternative
that has a fault. -/
inductive Faulty (rule : Text) : RuleError → Prop where
  | blank (h : Text.isBlankText rule = true) : Faulty rule (.blank rule)
  | alternative {before after : List Text} {a : Text} {e : RuleError}
      (h : Text.isBlankText rule = false)
      (hs : Text.splitOnText "||" rule = before ++ a :: after)
      (hb : ∀ b ∈ before, ∀ e', ¬ Fault b e') (ha : Fault a e) : Faulty rule e

/-- **A rule cannot be read just if it is blank or an alternative has a fault.** -/
theorem parse_eq_error_iff : parse rule = .error e ↔ Faulty rule e := by
  have hparse : Text.isBlankText rule = false → (parse rule = .error e ↔
      (Text.splitOnText "||" rule).mapM Alternative.parse = .error e) := by
    intro h
    unfold parse
    rw [if_neg (by simp [h])]
    cases (Text.splitOnText "||" rule).mapM Alternative.parse <;> simp
  constructor
  · intro h
    cases hblank : Text.isBlankText rule with
    | true =>
        rw [parse, if_pos hblank] at h
        obtain rfl : RuleError.blank rule = e := by simpa using h
        exact .blank hblank
    | false =>
        obtain ⟨before, a, after, hsplit, hbefore, ha⟩ :=
          Except.mapM_eq_error_iff.1 ((hparse hblank).1 h)
        refine .alternative hblank hsplit ?_ (Alternative.parse_eq_error_iff.1 ha)
        intro b hb e' hfault
        exact hbefore b hb e' (Alternative.parse_eq_error_iff.2 hfault)
  · intro h
    cases h with
    | blank h => rw [parse, if_pos h]
    | @alternative before after a e h hs hb ha =>
        refine (hparse h).2 (Except.mapM_eq_error_iff.2
          ⟨before, a, after, hs, ?_, Alternative.parse_eq_error_iff.2 ha⟩)
        intro b hmem e' hfault
        exact hb b hmem e' (Alternative.parse_eq_error_iff.1 hfault)

/-- **A rule that can be read** is not blank, and has the alternatives of its text. -/
theorem parse_eq_ok_iff {r : Rule} : parse rule = .ok r ↔ Text.isBlankText rule = false ∧
    List.Forall₂ (fun text a => Alternative.parse text = .ok a) (Text.splitOnText "||" rule)
      r.alternatives := by
  obtain ⟨alternatives⟩ := r
  rw [← Except.mapM_eq_ok_iff]
  unfold parse
  split
  · next h => simp [h]
  · next h => cases (Text.splitOnText "||" rule).mapM Alternative.parse <;> simp [h]

end Rule

end ChapterAssembly
