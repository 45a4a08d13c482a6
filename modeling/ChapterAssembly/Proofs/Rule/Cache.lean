/-
**Evaluators that have worked before.**

An evaluator keeps every rule that it has read, and nothing else: a text that is no rule leaves
nothing behind.  So whatever it was asked before, it answers as one that has just been made, and
what it keeps are the rules among all that it was asked for, each once.

Main definitions:

* `Rule.Ask`, `Rule.Answer` — something that an evaluator is asked, and what it answers;
* `Rule.Evaluator.Keeps` — what an evaluator keeps, as a set of texts;
* `Rule.Transparent` — what is promised of the answers to some questions.

Main results:

* `Rule.Evaluator.Keeps.compile` — reading a text adds it if it is a rule;
* `Rule.Ask.noted_eq` — an answer depends on the text of the rule and on the page;
* `Rule.asked_transparent` — **questions one after the other are answered as if each were the
  first**.
-/

import Mathlib.Data.Set.Card
import ChapterAssembly.Notes.Journal
import ChapterAssembly.Proofs.Rule.Faults

set_option relaxedAutoImplicit false
set_option autoImplicit false

namespace ChapterAssembly

namespace Rule

/-! ### What is kept -/

namespace Evaluator

variable {e : Evaluator} {kept : Set Text}

/-- **An evaluator keeps the rules of these texts**, each once. -/
structure Keeps (e : Evaluator) (kept : Set Text) : Prop where
  nodup : (e.compiled.map Prod.fst).Nodup
  mem : ∀ t, t ∈ e.compiled.map Prod.fst ↔ t ∈ kept

theorem find?_eq_none_iff {rule : Text} :
    e.find? rule = none ↔ rule ∉ e.compiled.map Prod.fst := by
  simp only [find?, List.lookup_eq_none_iff, List.mem_map, bne_iff_ne, not_exists, not_and]
  constructor
  · rintro h p hp rfl
    exact h p hp rfl
  · rintro h p hp rfl
    exact h p hp rfl

namespace Keeps

theorem empty : Keeps {} ∅ where
  nodup := List.nodup_nil
  mem := by simp

/-- **Reading a text adds it if it is a rule.** -/
theorem compile (h : e.Keeps kept) (rule : Text) :
    (e.compile rule).2.1.Keeps (kept ∪ {t | t = rule ∧ ∃ r, parse t = .ok r}) := by
  unfold Evaluator.compile
  split
  · next r hfind =>
      -- the text is kept already
      have hmem : rule ∈ e.compiled.map Prod.fst := by
        by_contra hnot
        rw [find?_eq_none_iff.2 hnot] at hfind
        cases hfind
      refine ⟨h.nodup, fun t => (h.mem t).trans ⟨.inl, ?_⟩⟩
      rintro (ht | ⟨rfl, -⟩)
      · exact ht
      · exact (h.mem t).1 hmem
  · next hfind =>
      split
      · next err herror =>
          refine ⟨h.nodup, fun t => (h.mem t).trans ⟨.inl, ?_⟩⟩
          rintro (ht | ⟨rfl, r, hr⟩)
          · exact ht
          · rw [herror] at hr
            cases hr
      · next r hr =>
          refine ⟨List.nodup_cons.2 ⟨find?_eq_none_iff.1 hfind, h.nodup⟩, fun t => ?_⟩
          have hnew : (t = rule ∧ ∃ r, parse t = .ok r) ↔ t = rule :=
            and_iff_left_of_imp (by rintro rfl; exact ⟨r, hr⟩)
          rw [List.map_cons, List.mem_cons, h.mem t, Set.mem_union, Set.mem_ofPred_eq, hnew,
            or_comm]

theorem size_eq (h : e.Keeps kept) : e.size = kept.ncard := by
  have hkept : kept = (e.compiled.map Prod.fst).toFinset := by
    ext t
    rw [Finset.mem_coe, List.mem_toFinset, h.mem]
  rw [hkept, Set.ncard_coe_finset, List.toFinset_card_of_nodup h.nodup, List.length_map, size]

end Keeps

end Evaluator

/-! ### Questions and answers -/

/-- What a rule finds: one text, or separate ones. -/
inductive Answer where
  | text (t : Text)
  | texts (ts : List Text)

/-- Something that an evaluator is asked: what a rule finds on a page. -/
structure Ask where
  query : Query
  rule : Text
  page : Context

/-- What a rule finds on a page. -/
def answer (r : Rule) (page : Context) : Query → Answer
  | .string => .text (r.string page)
  | .list => .texts (r.list page)
  | .links => .texts (r.links page)

/-- A question answered with what the journal keeps. -/
def Ask.noted (a : Ask) : Noted (Except RuleError Answer) :=
  match a.query with
  | .string => do return (← Noted.string a.rule a.page).map .text
  | .list => do return (← Noted.list a.rule a.page).map .texts
  | .links => do return (← Noted.links a.rule a.page).map .texts

/-- **An answer depends on the text of the rule and on the page**; what is kept afterwards depends
on the text. -/
theorem Ask.noted_eq (a : Ask) (j : Journal) :
    a.noted j = ((parse a.rule).map (·.answer a.page a.query), (Noted.compile a.rule j).2) := by
  obtain ⟨query, rule, page⟩ := a
  rw [← Noted.compile_fst rule j]
  cases query with
  | string =>
      simp only [noted, Noted.string, bind, StateT.bind]
      generalize Noted.compile rule j = compiled
      obtain ⟨r, j⟩ := compiled
      cases r <;> rfl
  | list =>
      simp only [noted, Noted.list, bind, StateT.bind]
      generalize Noted.compile rule j = compiled
      obtain ⟨r, j⟩ := compiled
      cases r <;> rfl
  | links =>
      simp only [noted, Noted.links, bind, StateT.bind]
      generalize Noted.compile rule j = compiled
      obtain ⟨r, j⟩ := compiled
      cases r <;> rfl

/-- A question fails just if its rule has a fault, whatever the page is. -/
theorem Ask.noted_eq_error_iff (a : Ask) (j : Journal) {e : RuleError} :
    (a.noted j).1 = .error e ↔ Faulty a.rule e := by
  rw [a.noted_eq, ← parse_eq_error_iff]
  cases parse a.rule <;> simp [Except.map]

/-! ### Questions one after the other -/

/-- The rules among the texts that are asked for. -/
def rulesOf (asks : List Ask) : Set Text := {t | (∃ a ∈ asks, a.rule = t) ∧ ∃ r, parse t = .ok r}

theorem rulesOf_cons (a : Ask) (asks : List Ask) :
    rulesOf (a :: asks) = {t | t = a.rule ∧ ∃ r, parse t = .ok r} ∪ rulesOf asks := by
  ext t
  simp only [rulesOf, Set.mem_ofPred_eq, Set.mem_union, List.exists_mem_cons_iff, or_and_right,
    eq_comm (a := t)]

/-- Questions one after the other: each is answered as by any other evaluator, and the rules among
them are kept. -/
theorem asked_eq (asks : List Ask) {j : Journal} {kept : Set Text} (h : j.evaluator.Keeps kept) :
    (asks.mapM Ask.noted j).1 = asks.map (fun a => (parse a.rule).map (·.answer a.page a.query)) ∧
      (asks.mapM Ask.noted j).2.evaluator.Keeps (kept ∪ rulesOf asks) := by
  induction asks generalizing j kept with
  | nil =>
      have hnone : rulesOf [] = ∅ := by simp [rulesOf]
      refine ⟨rfl, ?_⟩
      rw [hnone, Set.union_empty]
      exact h
  | cons a asks ih =>
      -- the first question, and then the others with what it leaves
      have hrun : (a :: asks).mapM Ask.noted j =
          (((parse a.rule).map (·.answer a.page a.query)) ::
            (asks.mapM Ask.noted (Noted.compile a.rule j).2).1,
            (asks.mapM Ask.noted (Noted.compile a.rule j).2).2) := by
        rw [List.mapM_cons]
        simp only [bind, StateT.bind, a.noted_eq]
        rfl
      have hkept : (Noted.compile a.rule j).2.evaluator.Keeps
          (kept ∪ {t | t = a.rule ∧ ∃ r, parse t = .ok r}) := h.compile a.rule
      obtain ⟨hanswers, hrest⟩ := ih hkept
      rw [hrun, rulesOf_cons, ← Set.union_assoc]
      exact ⟨by rw [hanswers, List.map_cons], hrest⟩

/-- **What is promised of the answers to some questions**, and of the evaluator that has answered
them. -/
structure Transparent (asks : List Ask) (answers : List (Except RuleError Answer))
    (e : Evaluator) : Prop where
  /-- Each answer is that of an evaluator that has just been made. -/
  answers_eq : answers = asks.map fun a => (a.noted {}).1
  /-- The rules among the texts that were asked for are kept, each once. -/
  size_eq : e.size = (rulesOf asks).ncard
  /-- Whether and how a question fails depends on the text of its rule alone. -/
  fails : List.Forall₂ (fun a answer => ∀ err, answer = .error err ↔ Faulty a.rule err) asks answers

/-- **Questions one after the other are answered as if each were the first.** -/
theorem asked_transparent (asks : List Ask) :
    Transparent asks (asks.mapM Ask.noted {}).1 (asks.mapM Ask.noted {}).2.evaluator := by
  obtain ⟨hanswers, hkept⟩ := asked_eq asks (j := {}) Evaluator.Keeps.empty
  have hfresh : (asks.mapM Ask.noted {}).1 = asks.map fun a => (a.noted {}).1 := by
    rw [hanswers]
    exact List.map_congr_left fun a _ => by rw [a.noted_eq]
  refine ⟨hfresh, ?_, ?_⟩
  · rw [hkept.size_eq, Set.empty_union]
  · rw [hfresh, List.forall₂_map_right_iff, List.forall₂_same]
    exact fun a _ err => a.noted_eq_error_iff {}

end Rule

end ChapterAssembly
