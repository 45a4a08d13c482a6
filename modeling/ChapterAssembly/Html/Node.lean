/-
**Pages as trees.**

A page, once read, is a list of nodes: elements with attributes and nodes inside, comments, and
text.  What stands in a `template` is a fragment apart from the page around it.  Every element
knows the order in which it came into being, which is the order in which searches report elements;
it is the order of start tags except where reading has moved a node.

Main definitions:

* `ChapterAssembly.Html.Element`, `Html.Node` — an element without what it holds, and a node;
* `Node.texts` — the texts in a node, in document order;
* `Element.attr?` — the value of an attribute.
-/

import ChapterAssembly.Html.Token

set_option relaxedAutoImplicit false
set_option autoImplicit false

namespace ChapterAssembly

namespace Html

/-- The vocabulary that an element belongs to. -/
inductive Space where
  | html
  | svg
  | mathml
deriving Repr, DecidableEq, BEq, Inhabited

/-- An element without the nodes in it. -/
structure Element where
  order : Nat
  space : Space := .html
  name : String
  attrs : Attributes := []
deriving Repr, Inhabited

namespace Element

/-- The names of attributes that drawings and formulas take from other vocabularies. -/
def borrowedNames : List String :=
  ["xlink:actuate", "xlink:arcrole", "xlink:href", "xlink:role", "xlink:show", "xlink:title",
    "xlink:type", "xml:base", "xml:lang", "xml:space", "xmlns", "xmlns:xlink"]

/-- The value of an attribute of the element's own vocabulary. -/
def attr? (e : Element) (name : String) : Option Text :=
  if e.space != .html && borrowedNames.contains name then none else e.attrs.lookup name

/-- The element is the HTML element of the given name. -/
def isHtml (e : Element) (name : String) : Bool := e.space == .html && e.name == name

/-- The element is one of the HTML elements of the given names. -/
def isHtmlOf (e : Element) (names : List String) : Bool := e.space == .html && names.contains e.name

end Element

/-- A node of a page. -/
inductive Node where
  | text (t : Text)
  | comment (t : Text)
  | element (e : Element) (children : List Node)
  /-- The content of a template. -/
  | fragment (nodes : List Node)
deriving Repr, Inhabited

namespace Node

mutual

/-- The texts in a node, in document order. -/
def texts : Node → List Text
  | .text t => [t]
  | .comment _ => []
  | .element _ children => textsOf children
  | .fragment nodes => textsOf nodes

/-- The texts in some nodes, in document order. -/
def textsOf : List Node → List Text
  | [] => []
  | n :: ns => n.texts ++ textsOf ns

end

@[simp] theorem texts_text (t : Text) : (text t).texts = [t] := rfl

@[simp] theorem texts_comment (t : Text) : (comment t).texts = [] := rfl

@[simp] theorem texts_element (e : Element) (ns : List Node) :
    (element e ns).texts = textsOf ns := rfl

@[simp] theorem texts_fragment (ns : List Node) : (fragment ns).texts = textsOf ns :=
  rfl

@[simp] theorem textsOf_nil : textsOf [] = [] := rfl

@[simp] theorem textsOf_cons (n : Node) (ns : List Node) :
    textsOf (n :: ns) = n.texts ++ textsOf ns := rfl

/-- The element that a node is, with the nodes in it. -/
def element? : Node → Option (Element × List Node)
  | .element e children => some (e, children)
  | _ => none

/-- The text that a node is. -/
def text? : Node → Option Text
  | .text t => some t
  | _ => none

end Node

end Html

end ChapterAssembly
