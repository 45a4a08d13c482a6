/-
**From HTML to paragraphs.**

The text of a chapter is kept as plain paragraphs, each indented by two ideographic spaces, in which
images stand as markers `<img src="…">`.  This module takes the markup off a fragment and lays out
paragraphs.

Main definitions:

* `Content.indentParagraphs` — the lines of a text that are not blank, each trimmed and indented;
* `Content.flatten` — the text of some nodes, with line breaks around blocks and image markers;
* `Content.formatKeepImages` — the paragraphs of a fragment.
-/

import ChapterAssembly.Html.Parse
import ChapterAssembly.Html.Print
import ChapterAssembly.Url.Link

set_option relaxedAutoImplicit false
set_option autoImplicit false

namespace ChapterAssembly

namespace Content

open Html

/-! ### Paragraphs -/

/-- What stands in front of a paragraph: two ideographic spaces. -/
def indent : Text := ['\u3000', '\u3000']

/-- The paragraphs of a text: its lines, trimmed, without the blank ones. -/
def paragraphs (t : Text) : List Text :=
  ((Text.lines t).map Text.trim).filter fun l => !l.isEmpty

/-- The paragraphs of a text, each indented, one a line. -/
def indentParagraphs (t : Text) : Text :=
  Text.joinWith ['\n'] ((paragraphs t).map (indent ++ ·))

/-! ### Taking markup off -/

/-- The elements that start and end a line. -/
def blockTags : List String :=
  ["address", "article", "blockquote", "br", "dd", "div", "dl", "dt", "figcaption", "figure",
    "footer", "h1", "h2", "h3", "h4", "h5", "h6", "header", "hr", "li", "ol", "p", "pre", "section",
    "table", "td", "th", "tr", "ul"]

/-- The elements that hold no text of the chapter. -/
def hiddenTags : List String := ["script", "style", "noscript", "template"]

/-- The attributes that give the address of an image, the ones for late loading first. -/
def imageAttributes : List String := ["data-original", "data-src", "src"]

/-- The address of an image, as it stands on the page. -/
def imageSource? (e : Element) : Option Text :=
  imageAttributes.findSome? fun name =>
    (e.attr? name).bind fun v => if (Text.trim v).isEmpty then none else some (Text.trim v)

/-- The marker of an image. -/
def imageMarker (address : Text) : Text := "<img src=\"" ++ address ++ "\">"

/-- What an image leaves in the text. -/
def imageText (base : Url) (e : Element) : Text :=
  match imageSource? e with
  | some src => imageMarker (Url.absolute base src)
  | none => []

/-- The line break around a block. -/
def blockBreak (e : Element) : Text := if blockTags.contains e.name then ['\n'] else []

mutual

/-- The text of a node, with line breaks around blocks and image markers. -/
def flattenNode (base : Url) : Node → Text
  | .text t => t
  | .comment _ => []
  | .element e children =>
    if hiddenTags.contains e.name then []
    else if e.name == "img" then imageText base e
    else blockBreak e ++ flatten base children ++ blockBreak e
  | .fragment _ => []

/-- The text of some nodes, with line breaks around blocks and image markers. -/
def flatten (base : Url) : List Node → Text
  | [] => []
  | n :: ns => flattenNode base n ++ flatten base ns

end

/-- The paragraphs of a fragment, with markers for its images. -/
def formatKeepImages (base : Url) (html : Text) : Text :=
  indentParagraphs (flatten base (Page.parseFragment html).nodes)

end Content

end ChapterAssembly
