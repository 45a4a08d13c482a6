/-
**Reading a page, step by step.**

The rules for what stands around the body, and the choice between all rules by the mode.

Main definitions:

* `BuildM.step` — one step by the rules of a mode;
* `BuildM.take` — all steps that an item takes;
* `Builder.takeToken` — all steps that a token takes.
-/

import ChapterAssembly.Html.Builder.Table

set_option relaxedAutoImplicit false
set_option autoImplicit false

namespace ChapterAssembly

namespace Html

namespace BuildM

open Builder

/-! ### Old pages -/

/-- How the public identifiers of pages for old browsers start. -/
def oldPublicIds : List String :=
  ["-//advasoft ltd//dtd html 3.0 aswedit + extensions//",
    "-//as//dtd html 3.0 aswedit + extensions//", "-//ietf//dtd html 2.0 level 1//",
    "-//ietf//dtd html 2.0 level 2//", "-//ietf//dtd html 2.0 strict level 1//",
    "-//ietf//dtd html 2.0 strict level 2//", "-//ietf//dtd html 2.0 strict//",
    "-//ietf//dtd html 2.0//", "-//ietf//dtd html 2.1e//", "-//ietf//dtd html 3.0//",
    "-//ietf//dtd html 3.2 final//", "-//ietf//dtd html 3.2//", "-//ietf//dtd html 3//",
    "-//ietf//dtd html level 0//", "-//ietf//dtd html level 1//", "-//ietf//dtd html level 2//",
    "-//ietf//dtd html level 3//", "-//ietf//dtd html strict level 0//",
    "-//ietf//dtd html strict level 1//", "-//ietf//dtd html strict level 2//",
    "-//ietf//dtd html strict level 3//", "-//ietf//dtd html strict//", "-//ietf//dtd html//",
    "-//metrius//dtd metrius presentational//",
    "-//microsoft//dtd internet explorer 2.0 html strict//",
    "-//microsoft//dtd internet explorer 2.0 html//",
    "-//microsoft//dtd internet explorer 2.0 tables//",
    "-//microsoft//dtd internet explorer 3.0 html strict//",
    "-//microsoft//dtd internet explorer 3.0 html//",
    "-//microsoft//dtd internet explorer 3.0 tables//", "-//netscape comm. corp.//dtd html//",
    "-//netscape comm. corp.//dtd strict html//", "-//o'reilly and associates//dtd html 2.0//",
    "-//o'reilly and associates//dtd html extended 1.0//",
    "-//o'reilly and associates//dtd html extended relaxed 1.0//",
    "-//softquad software//dtd hotmetal pro 6.0::19990601::extensions to html 4.0//",
    "-//softquad//dtd hotmetal pro 4.0::19971010::extensions to html 4.0//",
    "-//spyglass//dtd html 2.0 extended//", "-//sq//dtd html 2.0 hotmetal + extensions//",
    "-//sun microsystems corp.//dtd hotjava html//",
    "-//sun microsystems corp.//dtd hotjava strict html//", "-//w3c//dtd html 3 1995-03-24//",
    "-//w3c//dtd html 3.2 draft//", "-//w3c//dtd html 3.2 final//", "-//w3c//dtd html 3.2//",
    "-//w3c//dtd html 3.2s draft//", "-//w3c//dtd html 4.0 frameset//",
    "-//w3c//dtd html 4.0 transitional//", "-//w3c//dtd html experimental 19960712//",
    "-//w3c//dtd html experimental 970421//", "-//w3c//dtd w3 html//", "-//w3o//dtd w3 html 3.0//",
    "-//webtechs//dtd mozilla html 2.0//", "-//webtechs//dtd mozilla html//"]

/-- The document type asks for the rules of old browsers. -/
def isOld (d : Doctype) : Bool :=
  let name := d.name.getD []
  let publicId := Text.asciiLower (d.publicId.getD [])
  let systemId := Text.asciiLower (d.systemId.getD [])
  let startsWith := fun (s : String) => (Text.afterPrefix? s.toList publicId).isSome
  d.broken || name != "html".toList ||
    ["-//w3o//dtd w3 html strict 3.0//en//", "-/w3c/dtd html 4.0 transitional/en",
      "html"].any (fun s => publicId == s.toList) ||
    systemId == "http://www.ibm.com/data/dtd/v11/ibmxhtml1-transitional.dtd".toList ||
    oldPublicIds.any startsWith ||
    (d.systemId.isNone &&
      (startsWith "-//w3c//dtd html 4.01 frameset//" ||
        startsWith "-//w3c//dtd html 4.01 transitional//"))

/-! ### Around the body -/

/-- Puts the outermost element into the page, and opens it. -/
def insertRoot (attrs : Attributes) : BuildM Unit := do
  let i ← createElement .html "html" attrs
  modify fun b => { b with arena := b.arena.append 0 i, stack := [i] }

/-- The end tags that stand for more than themselves before the body has begun. -/
def opensBody (name : String) : Bool := ["body", "html", "br"].contains name

/-- The rules before anything has come. -/
def initialStep (item : Item) : BuildM Outcome := do
  match item with
  | .spaces _ => return .done
  | .comment t =>
    commentIn 0 t
    return .done
  | .doctype d =>
    modify fun b => { b with oldRules := isOld d, mode := .beforeHtml }
    return .done
  | _ =>
    modify fun b => { b with oldRules := true, mode := .beforeHtml }
    return .again

/-- The rules before the outermost element. -/
def beforeHtmlStep (item : Item) : BuildM Outcome := do
  let begin : BuildM Outcome := do
    insertRoot []
    setMode .beforeHead
    return .again
  match item with
  | .spaces _ | .doctype _ => return .done
  | .comment t =>
    commentIn 0 t
    return .done
  | .startTag tag =>
    if tag.name == "html" then
      insertRoot tag.attrs
      setMode .beforeHead
      return .done
    else begin
  | .endTag name => if name == "head" || opensBody name then begin else return .done
  | _ => begin

/-- The rules before the head. -/
def beforeHeadStep (item : Item) : BuildM Outcome := do
  let openHead (tag : Tag) : BuildM Unit := do
    let i ← insertElement tag
    modify fun b => { b with headElement := some i, mode := .inHead }
  let begin : BuildM Outcome := do
    openHead { name := "head" }
    return .again
  match item with
  | .spaces _ | .doctype _ => return .done
  | .comment t =>
    insertComment t
    return .done
  | .startTag tag =>
    if tag.name == "html" then return .like .inBody
    else if tag.name == "head" then
      openHead tag
      return .done
    else begin
  | .endTag name => if name == "head" || opensBody name then begin else return .done
  | _ => begin

/-- Closes the innermost template. -/
def closeTemplate : BuildM Unit := do
  if ← isOpen "template" then
    popWhile (·.isHtmlOf impliedEndsInTemplate)
    popThroughNamed "template"
    dropToBorder
    modify fun b => { b with templateModes := b.templateModes.tail }
    resetMode

/-- The rules in the head. -/
def headStep (item : Item) : BuildM Outcome := do
  let leave : BuildM Outcome := do
    pop
    setMode .afterHead
    return .again
  match item with
  | .spaces t =>
    insertText t
    return .done
  | .comment t =>
    insertComment t
    return .done
  | .doctype _ => return .done
  | .startTag tag =>
    match tag.name with
    | "html" => return .like .inBody
    | "base" | "basefont" | "bgsound" | "link" | "meta" =>
      let _ ← placeElement .html tag
      return .done
    | "title" =>
      insertRaw tag (.escapable "title")
      return .done
    | "noframes" | "style" | "noscript" =>
      insertRaw tag (.raw tag.name)
      return .done
    | "script" =>
      insertRaw tag .script
      return .done
    | "template" =>
      let _ ← insertElement tag
      addBorder
      modify fun b =>
        { b with framesetOk := false, mode := .inTemplate
                 templateModes := .inTemplate :: b.templateModes }
      return .done
    | "head" => return .done
    | _ => leave
  | .endTag name =>
    if name == "head" then
      pop
      setMode .afterHead
      return .done
    else if opensBody name then leave
    else if name == "template" then
      closeTemplate
      return .done
    else return .done
  | _ => leave

/-- The rules between head and body. -/
def afterHeadStep (item : Item) : BuildM Outcome := do
  let begin : BuildM Outcome := do
    let _ ← insertNamed "body"
    setMode .inBody
    return .again
  match item with
  | .spaces t =>
    insertText t
    return .done
  | .comment t =>
    insertComment t
    return .done
  | .doctype _ => return .done
  | .startTag tag =>
    match tag.name with
    | "html" => return .like .inBody
    | "body" =>
      let _ ← insertElement tag
      framesetNotOk
      setMode .inBody
      return .done
    | "frameset" =>
      let _ ← insertElement tag
      setMode .inFrameset
      return .done
    | "head" => return .done
    | name =>
      if headNames.contains name then
        match (← get).headElement with
        | none => return .done
        | some head =>
          push head
          let outcome ← headStep item
          removeFromStack head
          return outcome
      else begin
  | .endTag name =>
    if opensBody name then begin
    else if name == "template" then return .like .inHead
    else return .done
  | _ => begin

/-- The rules for text that only an end tag ends. -/
def rawTextStep (item : Item) : BuildM Outcome := do
  match item with
  | .spaces t | .words t =>
    insertText t
    return .done
  | .ending =>
    pop
    modify fun b => { b with mode := b.modeBefore }
    return .again
  | .endTag _ =>
    pop
    modify fun b => { b with mode := b.modeBefore }
    return .done
  | _ => return .done

/-- The rules behind the body. -/
def afterBodyStep (item : Item) : BuildM Outcome := do
  let goBack : BuildM Outcome := do
    setMode .inBody
    return .again
  match item with
  | .spaces _ => return .like .inBody
  | .comment t =>
    commentIn (← outermost) t
    return .done
  | .doctype _ | .ending => return .done
  | .startTag tag => if tag.name == "html" then return .like .inBody else goBack
  | .endTag name =>
    if name == "html" then
      if (← get).context.isNone then setMode .afterAfterBody
      return .done
    else goBack
  | _ => goBack

/-- The rules for a page of frames. -/
def framesetStep (item : Item) : BuildM Outcome := do
  match item with
  | .spaces t =>
    insertText t
    return .done
  | .comment t =>
    insertComment t
    return .done
  | .startTag tag =>
    match tag.name with
    | "html" => return .like .inBody
    | "frameset" =>
      let _ ← insertElement tag
      return .done
    | "frame" =>
      let _ ← placeElement .html tag
      return .done
    | "noframes" => return .like .inHead
    | _ => return .done
  | .endTag name =>
    if name == "frameset" && 1 < (← get).stack.length then
      pop
      if (← get).context.isNone && !(← currentIs "frameset") then setMode .afterFrameset
    return .done
  | _ => return .done

/-- The rules behind the frames. -/
def afterFramesetStep (item : Item) : BuildM Outcome := do
  match item with
  | .spaces t =>
    insertText t
    return .done
  | .comment t =>
    insertComment t
    return .done
  | .startTag tag =>
    match tag.name with
    | "html" => return .like .inBody
    | "noframes" => return .like .inHead
    | _ => return .done
  | .endTag name =>
    if name == "html" then setMode .afterAfterFrameset
    return .done
  | _ => return .done

/-- The rules behind everything. -/
def afterAfterBodyStep (item : Item) : BuildM Outcome := do
  match item with
  | .spaces _ => return .like .inBody
  | .comment t =>
    commentIn 0 t
    return .done
  | .doctype _ | .ending => return .done
  | _ =>
    match item with
    | .startTag tag => if tag.name == "html" then return .like .inBody
    | _ => pure ()
    setMode .inBody
    return .again

/-- The rules behind everything on a page of frames. -/
def afterAfterFramesetStep (item : Item) : BuildM Outcome := do
  match item with
  | .spaces _ => return .like .inBody
  | .comment t =>
    commentIn 0 t
    return .done
  | .startTag tag =>
    match tag.name with
    | "html" => return .like .inBody
    | "noframes" => return .like .inHead
    | _ => return .done
  | _ => return .done

/-! ### All rules -/

/-- One step by the rules of a mode. -/
def step : Mode → Item → BuildM Outcome
  | .initial => initialStep
  | .beforeHtml => beforeHtmlStep
  | .beforeHead => beforeHeadStep
  | .inHead => headStep
  | .afterHead => afterHeadStep
  | .inBody => bodyStep
  | .rawText => rawTextStep
  | .inTable => tableStep
  | .inTableText => tableTextStep
  | .inCaption => captionStep
  | .inColumnGroup => columnGroupStep
  | .inTableBody => tableBodyStep
  | .inRow => rowStep
  | .inCell => cellStep
  | .inSelect => selectStep
  | .inSelectInTable => selectInTableStep
  | .inTemplate => templateStep
  | .afterBody => afterBodyStep
  | .inFrameset => framesetStep
  | .afterFrameset => afterFramesetStep
  | .afterAfterBody => afterAfterBodyStep
  | .afterAfterFrameset => afterAfterFramesetStep

/-- Takes an item: `rules` says by which rules, if not by those of the place the reader is in. -/
def takeBy (item : Item) : Nat → Option Mode → BuildM Unit
  | 0, _ => return
  | rounds + 1, rules => do
    let outcome ← match rules with
      | some m => step m item
      | none =>
        if ← isForeign item then foreignStep item
        else step (← get).mode item
    match outcome with
    | .done => return
    | .again => takeBy item rounds none
    | .like m => takeBy item rounds (some m)
    | .fostered =>
      modify fun b => { b with fostering := true }
      takeBy item rounds (some .inBody)
      modify fun b => { b with fostering := false }

/-- Takes an item.  Each round closes an element or comes closer to the body, so that a round for
each open element and two for each mode are enough. -/
def take (item : Item) : BuildM Unit := do
  takeBy item (2 * (← get).stack.length + 64) none

end BuildM

namespace Builder

/-- The items that a text falls into: blank runs, other runs, and the character U+0000. -/
def itemsOf (t : Text) : List Item :=
  (t.splitBy fun a b => kind a == kind b && kind a != 0).filterMap fun run =>
    match run with
    | [] => none
    | c :: _ =>
      match kind c with
      | 0 => some .nul
      | 1 => some (.spaces run)
      | _ => some (.words run)
where
  /-- The kind of run that a character belongs to. -/
  kind (c : Char) : Nat := if c == '\x00' then 0 else if Token.isSpace c then 1 else 2

/-- The items of a token. -/
def itemsOfToken : Token → List Item
  | .doctype d => [.doctype d]
  | .startTag name attrs selfClosing => [.startTag { name, attrs, selfClosing }]
  | .endTag name => [.endTag name]
  | .comment t => [.comment t]
  | .text t => itemsOf t

/-- The text of a token without a line feed in front, if one is to be left out. -/
def withoutLineFeed (b : Builder) (token : Token) : Token :=
  match b.dropLineFeed, token with
  | true, .text ('\n' :: t) => .text t
  | _, _ => token

/-- All steps that a token takes. -/
def takeToken (b : Builder) (token : Token) : Builder :=
  let items := itemsOfToken (b.withoutLineFeed token)
  ((items.forM BuildM.take).run { b with dropLineFeed := false }).2

end Builder

end Html

end ChapterAssembly
