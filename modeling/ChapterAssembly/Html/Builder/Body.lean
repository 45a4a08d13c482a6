/-
**Reading the body of a page.**

The rules for items in the body, where most of a page is.  Other modes fall back on them.

Main definitions:

* `BuildM.bodyStep` — the rules for the body;
* `BuildM.bodyStartTag`, `BuildM.bodyEndTag` — those for tags.
-/

import ChapterAssembly.Html.Builder.Formatting
import ChapterAssembly.Html.Builder.Foreign

set_option relaxedAutoImplicit false
set_option autoImplicit false

namespace ChapterAssembly

namespace Html

namespace BuildM

open Builder

/-- Blocks that end a paragraph. -/
def blocks : List String :=
  ["address", "article", "aside", "blockquote", "center", "details", "dialog", "dir", "div", "dl",
    "fieldset", "figcaption", "figure", "footer", "header", "hgroup", "main", "menu", "nav", "ol",
    "p", "section", "summary", "ul"]

/-- Blocks whose end tags close what is left open in them. -/
def closableBlocks : List String :=
  ["address", "article", "aside", "blockquote", "button", "center", "details", "dialog", "dir",
    "div", "dl", "fieldset", "figcaption", "figure", "footer", "header", "hgroup", "listing",
    "main", "menu", "nav", "ol", "pre", "section", "summary", "ul"]

/-- Elements that keep the look of text over block borders. -/
def formattingNames : List String :=
  ["b", "big", "code", "em", "font", "i", "s", "small", "strike", "strong", "tt", "u"]

/-- Tags that belong into the head, wherever they stand. -/
def headNames : List String :=
  ["base", "basefont", "bgsound", "link", "meta", "noframes", "script", "style", "template", "title"]

/-- Parts of tables and frames, which mean nothing in a body. -/
def straySections : List String :=
  ["caption", "col", "colgroup", "frame", "head", "tbody", "td", "tfoot", "th", "thead", "tr"]

/-- An `input` that shows nothing. -/
def isHiddenInput (tag : Tag) : Bool :=
  (tag.attrs.lookup "type").any fun v => Text.asciiLower v == "hidden".toList

/-- The cell of the body, if it is the second open element. -/
def bodyCell : BuildM (Option Nat) := do
  let b ← get
  match b.stack.reverse with
  | _ :: i :: _ => if (← elementOf i).isHtml "body" then return some i else return none
  | _ => return none

/-- Closes a list item, or a term or description, that is open around here. -/
def closeItem (names : List String) : BuildM Unit := do
  match search (openElements (← get)) with
  | some name =>
    closeImpliedBut name
    popThroughNamed name
  | none => pure ()
where
  /-- The item to close: no other element that shapes the page may be in between. -/
  search : List Element → Option String
    | [] => none
    | e :: es =>
      if e.isHtmlOf names then some e.name
      else if isSpecial e && !e.isHtmlOf ["address", "div", "p"] then none
      else search es

/-- A second link starts: the first one ends. -/
def closeOpenLink : BuildM Unit := do
  match (recentFormatting (← get)).find? fun (_, tag) => tag.name == "a" with
  | none => pure ()
  | some (i, _) =>
    adopt "a"
    removeFormatting i
    removeFromStack i

/-- A start tag in the body. -/
def bodyStartTag (tag : Tag) : BuildM Outcome := do
  let name := tag.name
  if name == "html" then
    if !(← isOpen "template") then
      let i ← outermost
      modify fun b => { b with arena := b.arena.addMissingAttributes i tag.attrs }
    return .done
  else if headNames.contains name then return .like .inHead
  else if name == "body" then
    match ← bodyCell with
    | some i =>
      if !(← isOpen "template") then
        framesetNotOk
        modify fun b => { b with arena := b.arena.addMissingAttributes i tag.attrs }
    | none => pure ()
    return .done
  else if name == "frameset" then
    if (← get).framesetOk then
      match ← bodyCell with
      | some i =>
        modify fun b =>
          { b with arena := b.arena.detach i, removed := i :: b.removed
                   stack := b.stack.getLast?.toList }
        let _ ← insertElement tag
        setMode .inFrameset
      | none => pure ()
    return .done
  else if blocks.contains name then
    closeOpenParagraph
    let _ ← insertElement tag
    return .done
  else if headings.contains name then
    closeOpenParagraph
    if ← currentIsOf headings then pop
    let _ ← insertElement tag
    return .done
  else if name == "pre" || name == "listing" then
    closeOpenParagraph
    let _ ← insertElement tag
    modify fun b => { b with dropLineFeed := true, framesetOk := false }
    return .done
  else if name == "form" then
    let inTemplate ← isOpen "template"
    if (← get).form.isNone || inTemplate then
      closeOpenParagraph
      let i ← insertElement tag
      if !inTemplate then modify fun b => { b with form := some i }
    return .done
  else if name == "li" then
    framesetNotOk
    closeItem ["li"]
    closeOpenParagraph
    let _ ← insertElement tag
    return .done
  else if name == "dd" || name == "dt" then
    framesetNotOk
    closeItem ["dd", "dt"]
    closeOpenParagraph
    let _ ← insertElement tag
    return .done
  else if name == "plaintext" then
    closeOpenParagraph
    let _ ← insertElement tag
    modify fun b => { b with content := .plain }
    return .done
  else if name == "button" then
    if ← namedInScope endsScope "button" then
      closeImplied
      popThroughNamed "button"
    reopenFormatting
    let _ ← insertElement tag
    framesetNotOk
    return .done
  else if name == "a" then
    closeOpenLink
    reopenFormatting
    insertFormatting tag
    return .done
  else if formattingNames.contains name then
    reopenFormatting
    insertFormatting tag
    return .done
  else if name == "nobr" then
    reopenFormatting
    if ← namedInScope endsScope "nobr" then
      adopt "nobr"
      reopenFormatting
    insertFormatting tag
    return .done
  else if ["applet", "marquee", "object"].contains name then
    reopenFormatting
    let _ ← insertElement tag
    addBorder
    framesetNotOk
    return .done
  else if name == "table" then
    if !(← get).oldRules then closeOpenParagraph
    let _ ← insertElement tag
    framesetNotOk
    setMode .inTable
    return .done
  else if ["area", "br", "embed", "img", "keygen", "wbr", "input"].contains name then
    reopenFormatting
    let _ ← placeElement .html tag
    if !(name == "input" && isHiddenInput tag) then framesetNotOk
    return .done
  else if ["param", "source", "track"].contains name then
    let _ ← placeElement .html tag
    return .done
  else if name == "hr" then
    closeOpenParagraph
    let _ ← placeElement .html tag
    framesetNotOk
    return .done
  else if name == "image" then
    reopenFormatting
    let _ ← placeElement .html { tag with name := "img" }
    framesetNotOk
    return .done
  else if name == "textarea" then
    modify fun b => { b with dropLineFeed := true, framesetOk := false }
    insertRaw tag (.escapable name)
    return .done
  else if name == "xmp" then
    closeOpenParagraph
    reopenFormatting
    framesetNotOk
    insertRaw tag (.raw name)
    return .done
  else if name == "iframe" then
    framesetNotOk
    insertRaw tag (.raw name)
    return .done
  else if name == "noembed" || name == "noscript" then
    insertRaw tag (.raw name)
    return .done
  else if name == "select" then
    reopenFormatting
    let _ ← insertElement tag
    framesetNotOk
    match (← get).mode with
    | .inTable | .inCaption | .inTableBody | .inRow | .inCell => setMode .inSelectInTable
    | _ => setMode .inSelect
    return .done
  else if name == "optgroup" || name == "option" then
    if ← currentIs "option" then pop
    reopenFormatting
    let _ ← insertElement tag
    return .done
  else if name == "rb" || name == "rtc" then
    if ← namedInScope endsScope "ruby" then closeImplied
    let _ ← insertElement tag
    return .done
  else if name == "rp" || name == "rt" then
    if ← namedInScope endsScope "ruby" then closeImpliedBut "rtc"
    let _ ← insertElement tag
    return .done
  else if name == "math" then
    reopenFormatting
    enterForeign .mathml tag
    return .done
  else if name == "svg" then
    reopenFormatting
    enterForeign .svg tag
    return .done
  else if straySections.contains name then return .done
  else
    reopenFormatting
    let _ ← insertElement tag
    return .done

/-- The end tag of a form: closes the form, even if other elements are open in it. -/
def closeForm : BuildM Unit := do
  if ← isOpen "template" then
    if ← namedInScope endsScope "form" then
      closeImplied
      popThroughNamed "form"
  else
    match (← get).form with
    | none => pure ()
    | some i =>
      modify fun b => { b with form := none }
      if ← inScope endsScope (·.order == i) then
        closeImplied
        removeFromStack i

/-- An end tag in the body. -/
def bodyEndTag (name : String) : BuildM Outcome := do
  if name == "template" then return .like .inHead
  else if name == "body" then
    if ← namedInScope endsScope "body" then setMode .afterBody
    return .done
  else if name == "html" then
    if ← namedInScope endsScope "body" then
      setMode .afterBody
      return .again
    return .done
  else if closableBlocks.contains name then
    if ← namedInScope endsScope name then
      closeImplied
      popThroughNamed name
    return .done
  else if name == "form" then
    closeForm
    return .done
  else if name == "p" then
    if !(← namedInScope endsButtonScope "p") then
      let _ ← insertNamed "p"
    closeParagraph
    return .done
  else if name == "li" || name == "dd" || name == "dt" then
    if ← namedInScope (if name == "li" then endsListScope else endsScope) name then
      closeImpliedBut name
      popThroughNamed name
    return .done
  else if headings.contains name then
    if ← inScope endsScope (·.isHtmlOf headings) then
      closeImplied
      popThrough (·.isHtmlOf headings)
    return .done
  else if name == "a" || name == "nobr" || formattingNames.contains name then
    adopt name
    return .done
  else if ["applet", "marquee", "object"].contains name then
    if ← namedInScope endsScope name then
      closeImplied
      popThroughNamed name
      dropToBorder
    return .done
  else if name == "br" then
    bodyStartTag { name }
  else
    closeNamed name
    return .done

/-- The rules for the body. -/
def bodyStep (item : Item) : BuildM Outcome := do
  match item with
  | .nul => return .done
  | .spaces t =>
    reopenFormatting
    insertText t
    return .done
  | .words t =>
    reopenFormatting
    framesetNotOk
    insertText t
    return .done
  | .comment t =>
    insertComment t
    return .done
  | .startTag tag => bodyStartTag tag
  | .endTag name => bodyEndTag name
  | .ending => if (← get).templateModes.isEmpty then return .done else return .like .inTemplate
  | .doctype _ => return .done

end BuildM

end Html

end ChapterAssembly
