/-
**The text of one page.**

Main definitions:

* `Content.Extracted` — the text of a page, and the links to the chapter's further pages;
* `Content.extract` — what the rules of a source find on a page.

Main results:

* `Content.extractIn_fst` — the outcome does not depend on the journal, and is `extractText` with
  `nextLinks`.
-/

import ChapterAssembly.Book.Basic
import ChapterAssembly.Content.Error
import ChapterAssembly.Content.Format
import ChapterAssembly.Notes.Journal

set_option relaxedAutoImplicit false
set_option autoImplicit false

namespace ChapterAssembly

namespace Content

/-- What a page gives: its text, and the links to the chapter's further pages. -/
structure Extracted where
  text : Text := []
  next : List Text := []
deriving Repr, DecidableEq

/-- The paragraphs that the content rule finds on a page. -/
def extractText (rules : RuleSet) (page : Rule.Context) : Except ContentError Text :=
  match (Rule.parse rules.content).map (·.string page) with
  | .ok html => .ok (formatKeepImages page.base html)
  | .error e => .error (.contentRule e)

/-- The links that the rule for further pages finds; a broken rule finds none. -/
def nextLinks (rules : RuleSet) (page : Rule.Context) : List Text :=
  match RuleSet.given rules.nextPages with
  | none => []
  | some rule =>
    match (Rule.parse rule).map (·.links page) with
    | .ok links => links
    | .error _ => []

/-- Looks for the links to further pages.  A broken rule only loses them. -/
def findNext (source : Text) (rule : Text) (page : Rule.Context) : Noted (List Text) := do
  match ← Noted.links rule page with
  | .ok links =>
    unless links.isEmpty do
      Noted.record source .debug ("next page links: " ++ Text.joinWith (", " : String) links)
    return links
  | .error e =>
    Noted.tell ⟨.warn, "next page rule failed", [("url", page.base.text), ("err", e.message)]⟩
    Noted.record source .warn
      ("next page rule failed on " ++ page.base.text ++ ": " ++ e.message)
    return []

/-- What the rules of a source find on a page; links to further pages only if they are wanted.  A
broken content rule is an error. -/
def extractIn (source : Text) (rules : RuleSet) (wantNext : Bool) (page : Rule.Context) :
    Noted (Except ContentError Extracted) := do
  match ← Noted.string rules.content page with
  | .error e =>
    Noted.record source .error ("content rule failed on " ++ page.base.text ++ ": " ++ e.message)
    return .error (.contentRule e)
  | .ok html =>
    let text := formatKeepImages page.base html
    let next ← match RuleSet.given rules.nextPages, wantNext with
      | some rule, true => findNext source rule page
      | _, _ => pure []
    Noted.tell ⟨.debug, "extracted page", [("url", page.base.text),
      ("chars", Text.ofNat text.length), ("next", Text.ofNat next.length)]⟩
    return .ok { text, next }

theorem findNext_fst (source rule : Text) (page : Rule.Context) (j : Journal) :
    (findNext source rule page j).1 =
      match (Rule.parse rule).map (·.links page) with
      | .ok links => links
      | .error _ => [] := by
  rw [← Noted.links_fst rule page j]
  unfold findNext
  simp only [bind, StateT.bind]
  generalize Noted.links rule page j = r
  obtain ⟨r, j⟩ := r
  cases r with
  | error e => rfl
  | ok links => cases links <;> rfl

/-- **The outcome does not depend on the journal.** -/
theorem extractIn_fst (source : Text) (rules : RuleSet) (wantNext : Bool) (page : Rule.Context)
    (j : Journal) :
    (extractIn source rules wantNext page j).1 =
      (extractText rules page).map fun text =>
        { text, next := if wantNext then nextLinks rules page else [] } := by
  unfold extractIn extractText nextLinks
  rw [← Noted.string_fst rules.content page j]
  simp only [bind, StateT.bind]
  generalize Noted.string rules.content page j = r
  obtain ⟨r, j⟩ := r
  cases r with
  | error e => rfl
  | ok html =>
    cases h : RuleSet.given rules.nextPages with
    | none => cases wantNext <;> rfl
    | some rule =>
      cases wantNext with
      | false => rfl
      | true =>
        have := findNext_fst source rule page j
        show Except.ok (Extracted.mk _ (findNext source rule page j).1) = _
        rw [this]
        rfl

/-- What the rules of a source find on the page with the given address. -/
def extract (source : Text) (rules : RuleSet) (wantNext : Bool) (address body : Text) :
    Noted (Except ContentError Extracted) := do
  let base ← Noted.pageBase address
  extractIn source rules wantNext ⟨body, base⟩

end Content

end ChapterAssembly
