/-
**Evaluators.**

An evaluator keeps the rules it has read, so that each text is read once only.  What it keeps is
always the rule of the text it stands for, so that an evaluator that has worked before answers as a
new one does.

Main definitions:

* `Rule.Evaluator` — the rules read so far;
* `Rule.Evaluator.compile` — the rule of a text, from what is kept if it is there.

Main results:

* `Rule.Evaluator.compile_fst` — the rule does not depend on what is kept.
-/

import ChapterAssembly.Rule.Resolve

set_option relaxedAutoImplicit false
set_option autoImplicit false

namespace ChapterAssembly

namespace Rule

/-- The rules read so far, each with its text, the latest first. -/
structure Evaluator where
  compiled : List (Text × Rule) := []
  sound : ∀ p ∈ compiled, Rule.parse p.1 = .ok p.2 := by simp

namespace Evaluator

instance : Inhabited Evaluator := ⟨{}⟩

/-- The number of rules that are kept. -/
def size (e : Evaluator) : Nat := e.compiled.length

/-- The rule of a text that is kept. -/
def find? (e : Evaluator) (rule : Text) : Option Rule := e.compiled.lookup rule

/-- The event that tells that a rule was read. -/
def compiledEvent (rule : Text) (r : Rule) : Event :=
  ⟨.trace, "compiled rule", [("rule", rule), ("alternatives", Text.ofNat r.alternatives.length)]⟩

/-- The rule of a text.  A rule that was not kept is read and kept, and an event tells of it. -/
def compile (e : Evaluator) (rule : Text) : Except RuleError Rule × Evaluator × List Event :=
  match e.find? rule with
  | some r => (.ok r, e, [])
  | none =>
    match h : Rule.parse rule with
    | .error err => (.error err, e, [])
    | .ok r =>
      let kept : Evaluator :=
        { compiled := (rule, r) :: e.compiled
          sound := fun p hp => by
            rcases List.mem_cons.1 hp with rfl | hp
            · exact h
            · exact e.sound p hp }
      (.ok r, kept, [compiledEvent rule r])

theorem parse_of_find? {e : Evaluator} {rule : Text} {r : Rule} (h : e.find? rule = some r) :
    Rule.parse rule = .ok r := by
  obtain ⟨l₁, l₂, hl, -⟩ := List.lookup_eq_some_iff.1 h
  exact e.sound (rule, r) (by rw [hl]; simp)

/-- **The rule of a text does not depend on what is kept.** -/
theorem compile_fst (e : Evaluator) (rule : Text) : (e.compile rule).1 = Rule.parse rule := by
  unfold compile
  split
  · next h => exact (parse_of_find? h).symm
  · split <;> simp_all

/-- An evaluator as diagnostics show it. -/
def debugText (e : Evaluator) : Text :=
  "CssRuleEvaluator \x7b cached_rules: " ++ Text.ofNat e.size ++ " \x7d"

end Evaluator

end Rule

end ChapterAssembly
