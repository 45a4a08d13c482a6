/-
**The journal.**

Everything that works on a chapter keeps one journal: the evaluator with the rules read so far, the
events, and the records about sources.

Main definitions:

* `ChapterAssembly.Journal`, `ChapterAssembly.Noted` — a journal, and work that writes one;
* `Noted.string`, `Noted.links` — what a rule finds, with the rule taken from the evaluator;
* `Noted.pageBase` — the base of a page's links.

Main results:

* `Noted.string_fst`, `Noted.links_fst`, `Noted.pageBase_fst` — what is found does not depend on the
  journal.
-/

import ChapterAssembly.Notes.Log
import ChapterAssembly.Rule.Evaluator

set_option relaxedAutoImplicit false
set_option autoImplicit false

namespace ChapterAssembly

/-- What is kept while chapters are worked on: events and records with the latest first. -/
structure Journal where
  evaluator : Rule.Evaluator := default
  latestEvents : List Event := []
  latestRecords : List Record := []

namespace Journal

/-- The events, the oldest first. -/
def events (j : Journal) : List Event := j.latestEvents.reverse

/-- The records, the oldest first. -/
def records (j : Journal) : List Record := j.latestRecords.reverse

end Journal

/-- Work that writes a journal. -/
abbrev Noted := StateM Journal

namespace Noted

/-- An event is told. -/
def tell (e : Event) : Noted Unit := fun j => ((), { j with latestEvents := e :: j.latestEvents })

/-- A record about a source is left. -/
def record (source : Text) (severity : Severity) (message : Text) : Noted Unit := fun j =>
  ((), { j with latestRecords := ⟨source, severity, message⟩ :: j.latestRecords })

/-- The rule of a text, from the evaluator. -/
def compile (rule : Text) : Noted (Except RuleError Rule) := fun j =>
  let (r, evaluator, events) := j.evaluator.compile rule
  (r, { j with evaluator, latestEvents := events.reverse ++ j.latestEvents })

/-- What a rule finds, as one text. -/
def string (rule : Text) (c : Rule.Context) : Noted (Except RuleError Text) := fun j =>
  let (r, j) := compile rule j
  (r.map (·.string c), j)

/-- What a rule finds, as separate texts. -/
def list (rule : Text) (c : Rule.Context) : Noted (Except RuleError (List Text)) := fun j =>
  let (r, j) := compile rule j
  (r.map (·.list c), j)

/-- What a rule finds, as links made absolute. -/
def links (rule : Text) (c : Rule.Context) : Noted (Except RuleError (List Text)) := fun j =>
  let (r, j) := compile rule j
  (r.map (·.links c), j)

/-- The base of the links on a page with the given address; an event tells of an address that is no
URL. -/
def pageBase (address : Text) : Noted Url := fun j =>
  match Url.pageBase? address with
  | some u => (u, j)
  | none =>
    (Url.blank, (tell ⟨.debug, "base url is not absolute; using placeholder",
      [("url", address)]⟩ j).2)

theorem compile_fst (rule : Text) (j : Journal) : (compile rule j).1 = Rule.parse rule :=
  j.evaluator.compile_fst rule

/-- **What a rule finds does not depend on the journal.** -/
theorem string_fst (rule : Text) (c : Rule.Context) (j : Journal) :
    (string rule c j).1 = (Rule.parse rule).map (·.string c) := by
  rw [← compile_fst rule j]; rfl

theorem links_fst (rule : Text) (c : Rule.Context) (j : Journal) :
    (links rule c j).1 = (Rule.parse rule).map (·.links c) := by
  rw [← compile_fst rule j]; rfl

theorem pageBase_fst (address : Text) (j : Journal) :
    (pageBase address j).1 = Url.pageBase address := by
  unfold pageBase Url.pageBase
  split <;> simp [*]

end Noted

end ChapterAssembly
