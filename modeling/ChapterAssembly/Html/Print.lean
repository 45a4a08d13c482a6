/-
**Writing pages.**

A node is written as HTML: attributes between double quotes, text with references for the
characters that would be markup, and no end tag where none may stand.

Main definitions:

* `Html.Node.outer` — a node as HTML;
* `Html.inner` — the nodes in an element as HTML;
* `Html.escapeText`, `Html.escapeValue` — text and attribute values with references.
-/

import ChapterAssembly.Html.Node

set_option relaxedAutoImplicit false
set_option autoImplicit false

namespace ChapterAssembly

namespace Html

/-- A character of text. -/
def escapeChar (c : Char) : Text :=
  match c with
  | '&' => "&amp;"
  | '\u00A0' => "&nbsp;"
  | '<' => "&lt;"
  | '>' => "&gt;"
  | _ => [c]

/-- A character of an attribute value. -/
def escapeValueChar (c : Char) : Text :=
  match c with
  | '&' => "&amp;"
  | '\u00A0' => "&nbsp;"
  | '"' => "&quot;"
  | _ => [c]

/-- A text with references for the characters that would be markup. -/
def escapeText (t : Text) : Text := t.flatMap escapeChar

/-- An attribute value with references for the characters that would end it. -/
def escapeValue (t : Text) : Text := t.flatMap escapeValueChar

/-- The elements that hold nothing and have no end tag. -/
def voidNames : List String :=
  ["area", "base", "basefont", "bgsound", "br", "col", "embed", "frame", "hr", "img", "input",
    "keygen", "link", "meta", "param", "source", "track", "wbr"]

/-- The elements whose text is written as it is. -/
def rawNames : List String :=
  ["style", "script", "xmp", "iframe", "noembed", "noframes", "plaintext", "noscript"]

/-- An attribute behind a space. -/
def attributeText (a : String × Text) : Text :=
  ' ' :: a.1.toList ++ ['=', '"'] ++ escapeValue a.2 ++ ['"']

/-- The start tag of an element.  Its attributes are in the order of the source; a parser that keeps
them in a hash map promises none, and may write them in another. -/
def Element.startTag (e : Element) : Text :=
  '<' :: e.name.toList ++ e.attrs.flatMap attributeText ++ ['>']

/-- The end tag of an element. -/
def Element.endTag (e : Element) : Text := "</" ++ e.name.toList ++ ['>']

mutual

/-- A node as HTML; `raw` says that its text is written as it is. -/
def Node.write (raw : Bool) : Node → Text
  | .text t => if raw then t else escapeText t
  | .comment t => "<!--" ++ t ++ "-->"
  | .element e children =>
    if e.isHtmlOf voidNames then e.startTag
    else e.startTag ++ writeAll (e.isHtmlOf rawNames) children ++ e.endTag
  | .fragment nodes => writeAll raw nodes

/-- Some nodes as HTML. -/
def writeAll (raw : Bool) : List Node → Text
  | [] => []
  | n :: ns => n.write raw ++ writeAll raw ns

end

/-- A node as HTML. -/
def Node.outer (n : Node) : Text := n.write false

/-- The nodes in an element as HTML. -/
def inner (children : List Node) : Text := writeAll false children

end Html

end ChapterAssembly
