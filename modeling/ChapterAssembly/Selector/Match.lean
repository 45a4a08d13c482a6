/-
**Which elements a selector matches.**

An element is looked at together with its place: the elements before and after it under the same
parent, and the places of its ancestors.

Main definitions:

* `Selector.Site` — an element in its place;
* `Selector.Site.all` — all elements of a page in their places;
* `Selector.holds` — the selector matches an element;
* `Selector.select` — the elements of a page that the selector matches, in the order in which they
  came into being.
-/

import ChapterAssembly.Html.Parse
import ChapterAssembly.Selector.Parse

set_option relaxedAutoImplicit false
set_option autoImplicit false

namespace ChapterAssembly

namespace Selector

open Html (Node Element)

/-! ### Places -/

/-- What an element stands in. -/
inductive Within (σ : Type) where
  /-- The page itself. -/
  | page
  /-- A part that belongs to no element: the content of a template, or what reading took out of the
  page. -/
  | apart
  /-- Another element. -/
  | parent (p : σ)

/-- An element, the nodes in it, and its place: the elements before it, the nearest first, those
after it, and what it stands in. -/
inductive Site where
  | mk (element : Element) (children : List Node) (before after : List (Element × List Node))
    (within : Within Site)

namespace Site

def element : Site → Element
  | mk e _ _ _ _ => e

def children : Site → List Node
  | mk _ cs _ _ _ => cs

def before : Site → List (Element × List Node)
  | mk _ _ b _ _ => b

def after : Site → List (Element × List Node)
  | mk _ _ _ a _ => a

def within : Site → Within Site
  | mk _ _ _ _ w => w

/-- The place of the parent, if that is an element. -/
def parent? (s : Site) : Option Site :=
  match s.within with
  | .parent p => some p
  | _ => none

/-- The element is the outermost of its page. -/
def isRoot (s : Site) : Bool :=
  match s.within with
  | .page => true
  | _ => false

/-- The places of the ancestors, the nearest first. -/
def ancestors : Site → List Site
  | mk _ _ _ _ .page => []
  | mk _ _ _ _ .apart => []
  | mk _ _ _ _ (.parent p) => p :: p.ancestors

/-- The places of the elements `before`, the nearest first, side by side. -/
def leftOf (within : Within Site) :
    List (Element × List Node) → List (Element × List Node) → List Site
  | [], _ => []
  | (e, cs) :: before, after => mk e cs before after within :: leftOf within before ((e, cs) :: after)

/-- The places of the elements before this one, the nearest first. -/
def earlier (s : Site) : List Site :=
  leftOf s.within s.before ((s.element, s.children) :: s.after)

mutual

/-- The places in a node that stands behind the elements `before` and in front of `after`. -/
def inNode (within : Within Site) (before after : List (Element × List Node)) : Node → List Site
  | .text _ => []
  | .comment _ => []
  | .fragment nodes => inNodes .apart [] (nodes.filterMap Node.element?) nodes
  | .element e children =>
    mk e children before after within ::
      inNodes (.parent (mk e children before after within)) [] (children.filterMap Node.element?)
        children

/-- The places in some nodes that stand behind the elements `before`; `after` are the elements
among the nodes. -/
def inNodes (within : Within Site) (before after : List (Element × List Node)) :
    List Node → List Site
  | [] => []
  | n :: ns =>
    match n.element? with
    | none => inNode within before after n ++ inNodes within before after ns
    | some e => inNode within before after.tail n ++ inNodes within (e :: before) after.tail ns

end

/-- The places in the nodes of a page or of a part of one. -/
def inPart (within : Within Site) (nodes : List Node) : List Site :=
  inNodes within [] (nodes.filterMap Node.element?) nodes

/-- All elements of a page in their places, in document order; behind them those that reading took
out of it. -/
def all (page : Html.Page) : List Site :=
  inPart .page page.nodes ++ page.removed.flatMap fun n => inPart .apart [n]

end Site

/-! ### Conditions -/

/-- The attributes whose values HTML compares without regard to case. -/
def caselessAttributes : List String :=
  ["accept", "accept-charset", "align", "alink", "axis", "bgcolor", "charset", "checked", "clear",
    "codetype", "color", "compact", "declare", "defer", "dir", "direction", "disabled", "enctype",
    "face", "frame", "hreflang", "http-equiv", "lang", "language", "link", "media", "method",
    "multiple", "nohref", "noresize", "noshade", "nowrap", "readonly", "rel", "rev", "rules",
    "scope", "scrolling", "selected", "shape", "target", "text", "type", "valign", "valuetype",
    "vlink"]

/-- A text occurs in another. -/
def occursIn (s t : Text) : Bool := (Text.cutAt? s t).isSome

/-- The words of an attribute value. -/
def valueWords (t : Text) : List Text :=
  ((t.splitBy fun a b => Token.isSpace a == Token.isSpace b).filter fun w =>
    !(w.all Token.isSpace))

/-- A value satisfies a test. -/
def ValueTest.holds (test : ValueTest) (value : Text) : Bool :=
  match test with
  | .present => true
  | .equals v => value == v
  | .hasWord v => (valueWords value).contains v
  | .dashed v => value == v || (Text.afterPrefix? v value).any fun r => r.head? == some '-'
  | .startsWith v => !v.isEmpty && (Text.afterPrefix? v value).isSome
  | .endsWith v => !v.isEmpty && (Text.afterPrefix? v.reverse value.reverse).isSome
  | .contains v => !v.isEmpty && occursIn v value

/-- A test for values in lower case. -/
def ValueTest.lower : ValueTest → ValueTest
  | .present => .present
  | .equals v => .equals (Text.asciiLower v)
  | .hasWord v => .hasWord (Text.asciiLower v)
  | .dashed v => .dashed (Text.asciiLower v)
  | .startsWith v => .startsWith (Text.asciiLower v)
  | .endsWith v => .endsWith (Text.asciiLower v)
  | .contains v => .contains (Text.asciiLower v)

/-- A name of a selector as an element is asked for it: HTML has names in lower case only. -/
def nameFor (e : Element) (name : String) : String :=
  if e.space == .html then String.ofList (Text.asciiLower name.toList) else name

/-- Whether the value of an attribute is compared without regard to case. -/
def CaseRule.ignores (rule : CaseRule) (e : Element) (name : String) : Bool :=
  match rule with
  | .byName => e.space == .html && caselessAttributes.contains name
  | .exact => false
  | .ignoring => true

/-- An element has an attribute whose value satisfies a test. -/
def attributeHolds (e : Element) (name : String) (test : ValueTest) (rule : CaseRule) : Bool :=
  let name := nameFor e name
  match e.attr? name with
  | none => false
  | some v => if rule.ignores e name then test.lower.holds (Text.asciiLower v) else test.holds v

/-- The classes of an element. -/
def classes (e : Element) : List Text :=
  match e.attr? "class" with
  | none => []
  | some v => (v.splitBy fun a b => Text.isBlank a == Text.isBlank b).filter fun w =>
      !Text.isBlankText w

/-- Two elements have the same name in the same vocabulary. -/
def sameType (a b : Element) : Bool := a.name == b.name && a.space == b.space

/-- The number of an element among its siblings, from one end, perhaps only those of its type. -/
def numberAmong (s : Site) (fromEnd ofType : Bool) : Nat :=
  let others := if fromEnd then s.after else s.before
  (if ofType then others.filter fun o => sameType o.1 s.element else others).length + 1

/-- The number `i` is one of those at `step * n + offset`.  A distance that 32 bits do not hold
counts as none. -/
def Position.includes (p : Position) (i : Nat) : Bool :=
  let d : Int := i - p.offset
  if 2147483647 < d then false
  else if p.step = 0 then d == 0
  else Int.tmod d p.step == 0 && 0 ≤ Int.tdiv d p.step

/-- An element holds neither elements nor text. -/
def isEmptySite (s : Site) : Bool :=
  s.children.all fun n => match n with
    | .comment _ | .fragment _ => true
    | _ => false

mutual

/-- A condition holds of an element in its place. -/
def Simple.holds (s : Site) : Simple → Bool
  | .name n => s.element.name == nameFor s.element n
  | .any => true
  | .unqualified => false
  | .id v => s.element.attr? "id" == some v
  | .hasClass v => (classes s.element).contains v
  | .attribute name test rule => attributeHolds s.element name test rule
  | .position p => p.includes (numberAmong s p.fromEnd p.ofType)
  | .onlyOne ofType => numberAmong s false ofType == 1 && numberAmong s true ofType == 1
  | .root => s.isRoot
  | .empty => isEmptySite s
  | .no cs => !anyHolds s cs

/-- All conditions hold of an element in its place. -/
def allHold (s : Site) : List Simple → Bool
  | [] => true
  | c :: cs => c.holds s && allHold s cs

/-- Joined compounds match an element in its place. -/
def Complex.holds (s : Site) : Complex → Bool
  | .compound cs => allHold s cs
  | .joined left c cs =>
    allHold s cs &&
      match c with
      | .descendant => s.ancestors.any fun a => left.holds a
      | .child => s.parent?.any fun a => left.holds a
      | .nextSibling => s.earlier.head?.any fun a => left.holds a
      | .laterSibling => s.earlier.any fun a => left.holds a

/-- One of the alternatives matches an element in its place. -/
def anyHolds (s : Site) : List Complex → Bool
  | [] => false
  | c :: cs => c.holds s || anyHolds s cs

end

/-- The selector matches an element in its place. -/
def holds (sel : Selector) (s : Site) : Bool := anyHolds s sel.alternatives

/-- The elements of a page that the selector matches, in the order in which they came into
being. -/
def select (sel : Selector) (page : Html.Page) : List Site :=
  ((Site.all page).filter sel.holds).mergeSort fun a b => a.element.order ≤ b.element.order

end Selector

end ChapterAssembly
