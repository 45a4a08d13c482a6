/-
**The pages of a chapter, and its final text.**

Main definitions:

* `Content.Pages` — the texts of a chapter's pages, in reading order;
* `Content.Visited` — the URLs that a walk from page to page has seen;
* `Content.normalize` — the text of a chapter, after its replace rule.

Main results:

* `Content.normalize_fst` — the outcome does not depend on the journal, and is `finalText`.
-/

import ChapterAssembly.Content.Extract

set_option relaxedAutoImplicit false
set_option autoImplicit false

namespace ChapterAssembly

namespace Content

/-! ### Pages in reading order -/

/-- The texts of a chapter's pages, in reading order. -/
structure Pages where
  texts : List Text := []
deriving Repr, DecidableEq, Inhabited

namespace Pages

/-- A chapter of one page. -/
def ofFirst (t : Text) : Pages := ⟨[t]⟩

/-- A page follows. -/
def push (p : Pages) (t : Text) : Pages := ⟨p.texts ++ [t]⟩

/-- The number of pages. -/
def length (p : Pages) : Nat := p.texts.length

/-- There is no page. -/
def isEmpty (p : Pages) : Bool := p.texts.isEmpty

/-- The pages as one text, each on lines of its own. -/
def join (p : Pages) : Text := Text.joinWith ['\n'] p.texts

end Pages

/-! ### Visited URLs -/

/-- The URLs that a walk has seen, each once. -/
structure Visited where
  urls : List Text
  nodup : urls.Nodup

namespace Visited

/-- A walk that starts at a URL. -/
def ofFirst (url : Text) : Visited := ⟨[url], by simp⟩

/-- The walk has seen a URL. -/
def contains (v : Visited) (url : Text) : Bool := v.urls.contains url

/-- The number of URLs seen. -/
def size (v : Visited) : Nat := v.urls.length

/-- No URL was seen. -/
def isEmpty (v : Visited) : Bool := v.urls.isEmpty

/-- A URL is seen. -/
def insert (v : Visited) (url : Text) : Visited :=
  if h : v.contains url then v
  else ⟨url :: v.urls, List.nodup_cons.2 ⟨by simpa [contains] using h, v.nodup⟩⟩

@[simp] theorem mem_urls_insert (v : Visited) (url u : Text) :
    u ∈ (v.insert url).urls ↔ u = url ∨ u ∈ v.urls := by
  unfold insert
  split
  · next h =>
    simp only [contains, List.contains_eq_mem, decide_eq_true_eq] at h
    exact ⟨.inr, fun h' => h'.elim (· ▸ h) id⟩
  · simp

end Visited

/-! ### The final text -/

/-- A text whose lines are trimmed. -/
def trimLines (t : Text) : Text := Text.joinWith ['\n'] ((Text.lines t).map Text.trim)

/-- A line, indented if anything stands in it. -/
def indentLine (l : Text) : Text := if l.isEmpty then [] else indent ++ l

/-- A text whose lines are trimmed and then indented, unless nothing stands in them. -/
def indentLines (t : Text) : Text :=
  Text.joinWith ['\n'] ((Text.lines t).map fun l => indentLine (Text.trim l))

/-- The final text of a chapter: its pages, after the replace rule if there is one. -/
def finalText (pages : Pages) (replace : Option Text) (base : Url) : Except ContentError Text :=
  match RuleSet.given replace with
  | none => .ok pages.join
  | some rule =>
    match (Rule.parse rule).map (·.string ⟨trimLines pages.join, base⟩) with
    | .ok t => .ok (indentLines t)
    | .error e => .error (.replaceRule e)

/-- The final text of a chapter. -/
def normalize (pages : Pages) (replace : Option Text) (base : Url) :
    Noted (Except ContentError Text) := do
  match RuleSet.given replace with
  | none => return .ok pages.join
  | some rule =>
    let trimmed := trimLines pages.join
    match ← Noted.string rule ⟨trimmed, base⟩ with
    | .error e => return .error (.replaceRule e)
    | .ok t =>
      Noted.tell ⟨.debug, "applied replace rule", [("rule", rule),
        ("before", Text.ofNat (Utf8.size trimmed)), ("after", Text.ofNat (Utf8.size t))]⟩
      return .ok (indentLines t)

/-- **The outcome does not depend on the journal.** -/
theorem normalize_fst (pages : Pages) (replace : Option Text) (base : Url) (j : Journal) :
    (normalize pages replace base j).1 = finalText pages replace base := by
  unfold normalize finalText
  cases RuleSet.given replace with
  | none => rfl
  | some rule =>
    simp only [bind, StateT.bind]
    rw [← Noted.string_fst rule _ j]
    generalize Noted.string rule _ j = r
    obtain ⟨r, j⟩ := r
    cases r <;> rfl

end Content

end ChapterAssembly
