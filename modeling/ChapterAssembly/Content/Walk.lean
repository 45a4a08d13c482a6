/-
**Walking from page to page.**

A chapter whose first page names exactly one further page is read page by page, for only each page
tells which one follows.  The walk ends where a page names no further page or several, where it
would come back to a page it has seen, and where the next chapter begins.

Main definitions:

* `Content.Walk` — how far a walk has come;
* `Walk.target?` — the page that a walk goes to next;
* `Walk.goOn` — a walk told to go on to a page.
-/

import ChapterAssembly.Content.Pages

set_option relaxedAutoImplicit false
set_option autoImplicit false

namespace ChapterAssembly

namespace Content

/-- How far a walk has come. -/
structure Walk where
  /-- The base of all links of the walk: that of the first page. -/
  base : Url
  /-- Where the next chapter begins, if that is known. -/
  nextChapter : Option Text
  visited : Visited
  pages : Pages

namespace Walk

/-- A walk from the first page of a chapter, with the text of that page. -/
def start (base : Url) (firstUrl : Text) (nextChapter : Option Text) (text : Text) : Walk where
  base
  nextChapter := (nextChapter.map (Url.absolute base)).filter fun u => !u.isEmpty
  visited := .ofFirst (Url.absolute base firstUrl)
  pages := .ofFirst text

/-- The page that a walk goes to next when a page names `candidate`, if it goes on. -/
def target? (w : Walk) (candidate : Text) : Option Text :=
  let url := Url.absolute w.base candidate
  if url.isEmpty || w.visited.contains url || w.nextChapter == some url then none else some url

/-- The event that tells why a walk ends at a link. -/
def endEvent? (w : Walk) (candidate : Text) : Option Event :=
  let url := Url.absolute w.base candidate
  if url.isEmpty then none
  else if w.visited.contains url then
    some ⟨.debug, "next page already visited", [("url", url)]⟩
  else if w.nextChapter == some url then
    some ⟨.debug, "next page is the next chapter", [("url", url)]⟩
  else none

/-- A walk that goes to a page. -/
def visit (w : Walk) (url : Text) : Walk := { w with visited := w.visited.insert url }

/-- A walk that has read a page. -/
def push (w : Walk) (text : Text) : Walk := { w with pages := w.pages.push text }

/-- The walk, told to go on to a link: the page it goes to, unless it ends. -/
def goOn (w : Walk) (candidate : Text) : Noted (Option (Walk × Text)) := do
  match w.target? candidate with
  | some url => return some (w.visit url, url)
  | none =>
    match w.endEvent? candidate with
    | some e => Noted.tell e
    | none => pure ()
    return none

end Walk

end Content

end ChapterAssembly
