/-
**What reading a page keeps in mind.**

While tokens come in, the reader keeps the stack of open elements, a list of formatting elements
that outlive their places on the stack, and a mode that says where in the page it is.

Main definitions:

* `Html.Builder` — the state of reading, and `Html.BuildM` for steps on it;
* `Builder.Mode` — the modes;
* `Builder.Item` — what a step takes: tokens, with text cut into blank runs and others;
* `BuildM.inScope`, `BuildM.popThrough`, `BuildM.closeImplied` — the stack of open elements;
* `BuildM.insertElement`, `BuildM.insertText` — growing the page at the place that is due.
-/

import ChapterAssembly.Html.Arena

set_option relaxedAutoImplicit false
set_option autoImplicit false

namespace ChapterAssembly

namespace Html

namespace Builder

/-- Where in a page the reader is. -/
inductive Mode where
  | initial
  | beforeHtml
  | beforeHead
  | inHead
  | afterHead
  | inBody
  | rawText
  | inTable
  | inTableText
  | inCaption
  | inColumnGroup
  | inTableBody
  | inRow
  | inCell
  | inSelect
  | inSelectInTable
  | inTemplate
  | afterBody
  | inFrameset
  | afterFrameset
  | afterAfterBody
  | afterAfterFrameset
deriving Repr, DecidableEq, BEq, Inhabited

/-- A start tag. -/
structure Tag where
  name : String
  attrs : Attributes := []
  selfClosing : Bool := false
deriving Repr, Inhabited

/-- What a step takes. -/
inductive Item where
  | doctype (d : Doctype)
  | startTag (tag : Tag)
  | endTag (name : String)
  | comment (t : Text)
  | spaces (t : Text)
  | words (t : Text)
  | nul
  | ending
deriving Repr

/-- How a step ends. -/
inductive Outcome where
  /-- The item is dealt with. -/
  | done
  /-- The item is to be taken again, in the mode that holds now. -/
  | again
  /-- The item is to be taken as in another mode, which does not become the mode. -/
  | like (m : Mode)
  /-- The item is to be taken as in the body, and what belongs into no table goes in front. -/
  | fostered
deriving Repr

/-- A formatting element that is to be opened again where it was cut off, or a border that none
crosses. -/
inductive Formatting where
  | border
  | element (i : Nat) (tag : Tag)
deriving Repr, Inhabited

end Builder

/-- The state of reading. -/
structure Builder where
  arena : Arena := .empty
  mode : Builder.Mode := .initial
  /-- The mode to return to after text. -/
  modeBefore : Builder.Mode := .initial
  templateModes : List Builder.Mode := []
  /-- The open elements, the innermost first. -/
  stack : List Nat := []
  /-- The formatting elements, the latest first. -/
  formatting : List Builder.Formatting := []
  headElement : Option Nat := none
  /-- What was taken out of the page for good. -/
  removed : List Nat := []
  form : Option Nat := none
  /-- A frameset may still take the place of the body. -/
  framesetOk : Bool := true
  /-- A line feed that comes next is left out. -/
  dropLineFeed : Bool := false
  /-- What belongs into no table goes in front of it. -/
  fostering : Bool := false
  /-- The page is read as old browsers did. -/
  oldRules : Bool := false
  /-- Text inside a table, as runs in reverse. -/
  tableText : List Builder.Item := []
  /-- The element that a fragment is read for. -/
  context : Option String := none
  /-- Which tokens may come. -/
  content : Content := .markup

/-- A step of reading. -/
abbrev BuildM := StateM Builder

namespace BuildM

open Builder

/-! ### Sets of elements -/

/-- A formula element that holds text. -/
def holdsFormulaText (e : Element) : Bool :=
  e.space == .mathml && ["mi", "mo", "mn", "ms", "mtext"].contains e.name

/-- A drawing element that holds HTML. -/
def holdsHtml (e : Element) : Bool :=
  e.space == .svg && ["foreignObject", "desc", "title"].contains e.name

/-- The elements that end a scope. -/
def endsScope (e : Element) : Bool :=
  e.isHtmlOf ["applet", "caption", "html", "table", "td", "th", "marquee", "object", "template"] ||
    holdsFormulaText e || holdsHtml e

def endsListScope (e : Element) : Bool := endsScope e || e.isHtmlOf ["ol", "ul"]

def endsButtonScope (e : Element) : Bool := endsScope e || e.isHtml "button"

def endsTableScope (e : Element) : Bool := e.isHtmlOf ["html", "table", "template"]

def endsSelectScope (e : Element) : Bool := !e.isHtmlOf ["optgroup", "option"]

/-- The elements whose end tags may be left out. -/
def impliedEnds : List String :=
  ["dd", "dt", "li", "optgroup", "option", "p", "rb", "rp", "rt", "rtc"]

/-- The same, with the parts of tables. -/
def impliedEndsInTemplate : List String :=
  impliedEnds ++ ["caption", "colgroup", "tbody", "td", "tfoot", "th", "thead", "tr"]

def headings : List String := ["h1", "h2", "h3", "h4", "h5", "h6"]

/-- The elements that shape a page, so that stray end tags do not close them. -/
def isSpecial (e : Element) : Bool :=
  e.isHtmlOf ["address", "applet", "area", "article", "aside", "base", "basefont", "bgsound",
    "blockquote", "body", "br", "button", "caption", "center", "col", "colgroup", "dd", "details",
    "dir", "div", "dl", "dt", "embed", "fieldset", "figcaption", "figure", "footer", "form",
    "frame", "frameset", "h1", "h2", "h3", "h4", "h5", "h6", "head", "header", "hgroup", "hr",
    "html", "iframe", "img", "input", "isindex", "li", "link", "listing", "main", "marquee",
    "menu", "meta", "nav", "noembed", "noframes", "noscript", "object", "ol", "p", "param",
    "plaintext", "pre", "script", "section", "select", "source", "style", "summary", "table",
    "tbody", "td", "template", "textarea", "tfoot", "th", "thead", "title", "tr", "track", "ul",
    "wbr", "xmp"]

/-! ### The stack of open elements -/

/-- The element in a cell. -/
def elementOf (i : Nat) : BuildM Element := do
  return ((← get).arena.element? i).getD default

/-- The cell of the innermost open element. -/
def current : BuildM Nat := do
  return (← get).stack.headD 0

def currentElement : BuildM Element := do
  elementOf (← current)

/-- The cell of the outermost open element. -/
def outermost : BuildM Nat := do
  return (← get).stack.getLastD 0

def currentIs (name : String) : BuildM Bool := do
  return (← currentElement).isHtml name

def currentIsOf (names : List String) : BuildM Bool := do
  return (← currentElement).isHtmlOf names

def push (i : Nat) : BuildM Unit := modify fun b => { b with stack := i :: b.stack }

def pop : BuildM Unit := modify fun b => { b with stack := b.stack.tail }

def setMode (m : Mode) : BuildM Unit := modify fun b => { b with mode := m }

def framesetNotOk : BuildM Unit := modify fun b => { b with framesetOk := false }

/-- The open elements, the innermost first. -/
def openElements (b : Builder) : List Element :=
  b.stack.map fun i => (b.arena.element? i).getD default

/-- An element that `found` accepts is open, and no element between it and the current one ends
the scope. -/
def inScope (ends : Element → Bool) (found : Element → Bool) : BuildM Bool := do
  return search (openElements (← get))
where
  /-- The search, from the innermost element on. -/
  search : List Element → Bool
    | [] => false
    | e :: es => if found e then true else if ends e then false else search es

def namedInScope (ends : Element → Bool) (name : String) : BuildM Bool :=
  inScope ends (·.isHtml name)

/-- An HTML element of the given name is open. -/
def isOpen (name : String) : BuildM Bool := do
  return (openElements (← get)).any (·.isHtml name)

/-- Closes elements while the current one satisfies `p`. -/
def popWhile (p : Element → Bool) : BuildM Unit := modify fun b =>
  { b with stack := b.stack.dropWhile fun i => p ((b.arena.element? i).getD default) }

/-- Closes elements up to the first that satisfies `p`, and that one too. -/
def popThrough (p : Element → Bool) : BuildM Unit := do
  popWhile fun e => !p e
  pop

def popThroughNamed (name : String) : BuildM Unit := popThrough (·.isHtml name)

/-- Closes the elements whose end tags may be left out. -/
def closeImplied : BuildM Unit := popWhile (·.isHtmlOf impliedEnds)

/-- Closes the elements whose end tags may be left out, but none of the given name. -/
def closeImpliedBut (name : String) : BuildM Unit :=
  popWhile fun e => e.isHtmlOf impliedEnds && e.name != name

/-- Closes elements up to one that a part of a table may stand in. -/
def popToTable : BuildM Unit := popWhile fun e => !e.isHtmlOf ["table", "template", "html"]

def popToTableBody : BuildM Unit :=
  popWhile fun e => !e.isHtmlOf ["tbody", "tfoot", "thead", "template", "html"]

def popToRow : BuildM Unit := popWhile fun e => !e.isHtmlOf ["tr", "template", "html"]

/-- Takes a cell off the stack, wherever it is. -/
def removeFromStack (i : Nat) : BuildM Unit :=
  modify fun b => { b with stack := b.stack.filter (· != i) }

/-- Closes a paragraph. -/
def closeParagraph : BuildM Unit := do
  closeImpliedBut "p"
  popThroughNamed "p"

/-- Closes a paragraph that is open around here. -/
def closeOpenParagraph : BuildM Unit := do
  if ← namedInScope endsButtonScope "p" then closeParagraph

/-! ### Growing the page -/

/-- Where something goes: behind the children of a cell, or in front of a table. -/
inductive Place where
  | inside (i : Nat)
  | before (table : Nat) (below : Nat)

/-- Where something goes that belongs to the cell `target`. -/
def placeIn (target : Nat) : BuildM Place := do
  let b ← get
  let e ← elementOf target
  if b.fostering && e.isHtmlOf ["table", "tbody", "tfoot", "thead", "tr"] then
    return search b b.stack
  else return .inside target
where
  /-- The place in front of the innermost table, or in the innermost template. -/
  search (b : Builder) : List Nat → Place
    | [] => .inside (b.stack.getLastD 0)
    | i :: rest =>
      let e := (b.arena.element? i).getD default
      if e.isHtml "template" then .inside i
      else if e.isHtml "table" then .before i (rest.headD 0)
      else search b rest

def place : BuildM Place := do
  placeIn (← current)

/-- Puts a cell without parent at a place. -/
def putCell (p : Place) (i : Nat) : BuildM Unit := modify fun b =>
  match p with
  | .inside j => { b with arena := b.arena.append j i }
  | .before table below =>
    if (b.arena.parent? table).isSome then { b with arena := b.arena.insertBefore table i }
    else { b with arena := b.arena.append below i }

/-- Puts a text where it is due. -/
def insertText (t : Text) : BuildM Unit := do
  let p ← place
  modify fun b =>
    match p with
    | .inside j => { b with arena := b.arena.appendText j t }
    | .before table below =>
      if (b.arena.parent? table).isSome then { b with arena := b.arena.insertTextBefore table t }
      else { b with arena := b.arena.appendText below t }

/-- A new element outside the tree. -/
def createElement (space : Space) (name : String) (attrs : Attributes) : BuildM Nat :=
  modifyGet fun b =>
    let (i, a) := b.arena.createElement space name attrs
    (i, { b with arena := a })

/-- Puts a new element where it is due, without opening it. -/
def placeElement (space : Space) (tag : Tag) : BuildM Nat := do
  let i ← createElement space tag.name tag.attrs
  putCell (← place) i
  return i

/-- Puts a new element where it is due, and opens it. -/
def insertElement (tag : Tag) : BuildM Nat := do
  let i ← placeElement .html tag
  push i
  return i

/-- Opens an element that the page does not name. -/
def insertNamed (name : String) : BuildM Nat := insertElement { name }

/-- Puts a comment below a cell. -/
def commentIn (i : Nat) (t : Text) : BuildM Unit := modify fun b =>
  let (j, a) := b.arena.create (.comment t)
  { b with arena := a.append i j }

/-- Puts a comment where it is due. -/
def insertComment (t : Text) : BuildM Unit := do
  let p ← place
  let j ← modifyGet fun b =>
    let (j, a) := b.arena.create (.comment t)
    (j, { b with arena := a })
  putCell p j

/-- Opens an element whose content is text. -/
def insertRaw (tag : Tag) (content : Content) : BuildM Unit := do
  let _ ← insertElement tag
  modify fun b => { b with modeBefore := b.mode, mode := .rawText, content }

/-! ### Choosing a mode -/

/-- The mode that fits the open elements. -/
def fittingMode : BuildM Mode := do
  let b ← get
  return search b b.stack
where
  /-- The mode for a `select` below the given elements. -/
  selectMode (b : Builder) : List Nat → Mode
    | [] => .inSelect
    | i :: rest =>
      let e := (b.arena.element? i).getD default
      if e.isHtml "template" then .inSelect
      else if e.isHtml "table" then .inSelectInTable
      else selectMode b rest
  /-- The search, from the innermost element on. -/
  search (b : Builder) : List Nat → Mode
    | [] => .inBody
    | i :: rest =>
      let last := rest.isEmpty
      let e := (b.arena.element? i).getD default
      let e : Element := match last, b.context with
        | true, some name => { order := 0, name }
        | _, _ => e
      if e.space != .html then search b rest
      else
        match e.name with
        | "select" => selectMode b rest
        | "td" | "th" => if last then search b rest else .inCell
        | "tr" => .inRow
        | "tbody" | "thead" | "tfoot" => .inTableBody
        | "caption" => .inCaption
        | "colgroup" => .inColumnGroup
        | "table" => .inTable
        | "template" => b.templateModes.headD .inBody
        | "head" => if last then search b rest else .inHead
        | "body" => .inBody
        | "frameset" => .inFrameset
        | "html" => if b.headElement.isNone then .beforeHead else .afterHead
        | _ => search b rest

/-- Goes into the mode that fits the open elements. -/
def resetMode : BuildM Unit := do
  setMode (← fittingMode)

end BuildM

end Html

end ChapterAssembly
