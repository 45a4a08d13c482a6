/-
**Reading pages.**

A page is read as a whole document, or as a fragment that could stand in a body.

Main definitions:

* `Html.Page` — a page: the nodes on its outermost level;
* `Html.Page.parse` — a document;
* `Html.Page.parseFragment` — a fragment; its nodes stand in an element `html` of their own.
-/

import ChapterAssembly.Html.Builder.Step

set_option relaxedAutoImplicit false
set_option autoImplicit false

namespace ChapterAssembly

namespace Html

/-- A page: the nodes on its outermost level.  A body that reading has taken out again is no part
of the page, but searches still see it. -/
structure Page where
  nodes : List Node
  removed : List Node := []
deriving Inhabited

namespace Page

/-- The outermost element, and the nodes in it. -/
def root? (p : Page) : Option (Element × List Node) := p.nodes.findSome? Node.element?

/-- The place is outside HTML proper, so that CDATA sections count. -/
def inForeign (b : Builder) : Bool :=
  match b.stack, b.context with
  | [], _ => false
  | [_], some _ => false
  | i :: _, _ => ((b.arena.element? i).map (·.space)).any (· != .html)

/-- Which tokens may come after a token: raw text ends with its end tag. -/
def contentAfter (b : Builder) (token : Token) : Content :=
  match token, b.content with
  | .endTag _, .plain => .plain
  | .endTag _, _ => .markup
  | _, c => c

/-- Reads a text to its end, in at most `rounds` rounds. -/
def readFrom : Nat → Builder → Text → Builder
  | 0, b, _ => b
  | _ + 1, b, [] => ((BuildM.take .ending).run b).2
  | rounds + 1, b, c :: t =>
    match Token.next b.content (inForeign b) (c :: t) with
    | (none, rest) => readFrom rounds b rest
    | (some token, rest) =>
      readFrom rounds ({ b with content := contentAfter b token }.takeToken token) rest

/-- Reads a text.  Every token takes a character at least, and the end takes one round more. -/
def read (b : Builder) (t : Text) : Page :=
  let t := Token.normalizeInput t
  let b := readFrom (t.length + 1) b t
  ⟨b.arena.toNodes 0, b.removed.filterMap b.arena.toNode?⟩

/-- The page of a document. -/
def parse (t : Text) : Page := read {} t

/-- The page of a fragment that could stand in a body. -/
def parseFragment (t : Text) : Page :=
  let (_, b) := (BuildM.insertRoot []).run { context := some "body", mode := .inBody }
  read b t

end Page

end Html

end ChapterAssembly
