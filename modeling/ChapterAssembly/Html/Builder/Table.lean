/-
**Reading tables, selections and templates.**

The rules for items inside a table and its parts, inside a list of options, and inside a template.
What belongs into no table is put in front of it.

Main definitions:

* `BuildM.tableStep`, `BuildM.tableTextStep`, `BuildM.captionStep`, `BuildM.columnGroupStep`,
  `BuildM.tableBodyStep`, `BuildM.rowStep`, `BuildM.cellStep` — the parts of a table;
* `BuildM.selectStep`, `BuildM.selectInTableStep` — lists of options;
* `BuildM.templateStep` — templates.
-/

import ChapterAssembly.Html.Builder.Body

set_option relaxedAutoImplicit false
set_option autoImplicit false

namespace ChapterAssembly

namespace Html

namespace BuildM

open Builder

/-- Text in a table: it is gathered, unless the current element is no part of a table. -/
def textInTable : BuildM Outcome := do
  if ← currentIsOf ["table", "tbody", "tfoot", "thead", "tr"] then
    modify fun b => { b with modeBefore := b.mode, mode := .inTableText, tableText := [] }
    return .again
  else return .fostered

/-- Closes the table and takes the mode that fits then; whether there was one. -/
def closeTable : BuildM Bool := do
  if ← namedInScope endsTableScope "table" then
    popThroughNamed "table"
    resetMode
    return true
  else return false

/-- The rules for a table. -/
def tableStep (item : Item) : BuildM Outcome := do
  match item with
  | .nul | .spaces _ | .words _ => textInTable
  | .comment t =>
    insertComment t
    return .done
  | .ending => return .like .inBody
  | .doctype _ => return .done
  | .startTag tag =>
    match tag.name with
    | "caption" =>
      popToTable
      addBorder
      let _ ← insertElement tag
      setMode .inCaption
      return .done
    | "colgroup" =>
      popToTable
      let _ ← insertElement tag
      setMode .inColumnGroup
      return .done
    | "col" =>
      popToTable
      let _ ← insertNamed "colgroup"
      setMode .inColumnGroup
      return .again
    | "tbody" | "tfoot" | "thead" =>
      popToTable
      let _ ← insertElement tag
      setMode .inTableBody
      return .done
    | "td" | "th" | "tr" =>
      popToTable
      let _ ← insertNamed "tbody"
      setMode .inTableBody
      return .again
    | "table" => if ← closeTable then return .again else return .done
    | "style" | "script" | "template" => return .like .inHead
    | "input" =>
      if isHiddenInput tag then
        let _ ← placeElement .html tag
        return .done
      else return .fostered
    | "form" =>
      if !(← isOpen "template") && (← get).form.isNone then
        let i ← placeElement .html tag
        modify fun b => { b with form := some i }
      return .done
    | _ => return .fostered
  | .endTag name =>
    match name with
    | "table" =>
      let _ ← closeTable
      return .done
    | "body" | "caption" | "col" | "colgroup" | "html" | "tbody" | "td" | "tfoot" | "th" | "thead"
    | "tr" => return .done
    | "template" => return .like .inHead
    | _ => return .fostered

/-- A gathered run of text that is not blank. -/
def isWords : Item → Bool
  | .words _ => true
  | _ => false

/-- Puts a gathered run of text into the table. -/
def insertRun : Item → BuildM Unit
  | .spaces t | .words t => insertText t
  | _ => pure ()

/-- Puts a gathered run of text in front of the table. -/
def fosterRun (item : Item) : BuildM Unit := do
  modify fun b => { b with fostering := true }
  let _ ← bodyStep item
  modify fun b => { b with fostering := false }

/-- The rules for text in a table: blank text stays, other text goes in front. -/
def tableTextStep (item : Item) : BuildM Outcome := do
  match item with
  | .nul => return .done
  | .spaces _ | .words _ =>
    modify fun b => { b with tableText := item :: b.tableText }
    return .done
  | _ =>
    let runs := (← get).tableText.reverse
    if runs.any isWords then runs.forM fosterRun else runs.forM insertRun
    modify fun b => { b with tableText := [], mode := b.modeBefore }
    return .again

/-- The tags that end a caption or a cell, since they belong to the table. -/
def tableParts : List String :=
  ["caption", "col", "colgroup", "tbody", "td", "tfoot", "th", "thead", "tr"]

/-- The rules for a caption. -/
def captionStep (item : Item) : BuildM Outcome := do
  let close (again : Bool) : BuildM Outcome := do
    if ← namedInScope endsTableScope "caption" then
      closeImplied
      popThroughNamed "caption"
      dropToBorder
      setMode .inTable
      return if again then .again else .done
    else return .done
  match item with
  | .startTag tag => if tableParts.contains tag.name then close true else return .like .inBody
  | .endTag name =>
    if name == "table" then close true
    else if name == "caption" then close false
    else if tableParts.contains name || name == "body" || name == "html" then return .done
    else return .like .inBody
  | _ => return .like .inBody

/-- The rules for a group of columns. -/
def columnGroupStep (item : Item) : BuildM Outcome := do
  let leave : BuildM Outcome := do
    if ← currentIs "colgroup" then
      pop
      setMode .inTable
      return .again
    else return .done
  match item with
  | .spaces t =>
    insertText t
    return .done
  | .comment t =>
    insertComment t
    return .done
  | .doctype _ => return .done
  | .ending => return .like .inBody
  | .startTag tag =>
    match tag.name with
    | "html" => return .like .inBody
    | "col" =>
      let _ ← placeElement .html tag
      return .done
    | "template" => return .like .inHead
    | _ => leave
  | .endTag name =>
    match name with
    | "colgroup" =>
      if ← currentIs "colgroup" then
        pop
        setMode .inTable
      return .done
    | "col" => return .done
    | "template" => return .like .inHead
    | _ => leave
  | _ => leave

/-- The rules for the groups of rows. -/
def tableBodyStep (item : Item) : BuildM Outcome := do
  let leave : BuildM Outcome := do
    if ← inScope endsTableScope (·.isHtmlOf ["table", "tbody", "tfoot"]) then
      popToTableBody
      pop
      setMode .inTable
      return .again
    else return .done
  match item with
  | .startTag tag =>
    match tag.name with
    | "tr" =>
      popToTableBody
      let _ ← insertElement tag
      setMode .inRow
      return .done
    | "th" | "td" =>
      popToTableBody
      let _ ← insertNamed "tr"
      setMode .inRow
      return .again
    | "caption" | "col" | "colgroup" | "tbody" | "tfoot" | "thead" => leave
    | _ => return .like .inTable
  | .endTag name =>
    match name with
    | "tbody" | "tfoot" | "thead" =>
      if ← namedInScope endsTableScope name then
        popToTableBody
        pop
        setMode .inTable
      return .done
    | "table" => leave
    | "body" | "caption" | "col" | "colgroup" | "html" | "td" | "th" | "tr" => return .done
    | _ => return .like .inTable
  | _ => return .like .inTable

/-- The rules for a row. -/
def rowStep (item : Item) : BuildM Outcome := do
  let leave (again : Bool) : BuildM Outcome := do
    if ← namedInScope endsTableScope "tr" then
      popToRow
      pop
      setMode .inTableBody
      return if again then .again else .done
    else return .done
  match item with
  | .startTag tag =>
    match tag.name with
    | "th" | "td" =>
      popToRow
      let _ ← insertElement tag
      setMode .inCell
      addBorder
      return .done
    | "caption" | "col" | "colgroup" | "tbody" | "tfoot" | "thead" | "tr" => leave true
    | _ => return .like .inTable
  | .endTag name =>
    match name with
    | "tr" => leave false
    | "table" => leave true
    | "tbody" | "tfoot" | "thead" =>
      if ← namedInScope endsTableScope name then leave true else return .done
    | "body" | "caption" | "col" | "colgroup" | "html" | "td" | "th" => return .done
    | _ => return .like .inTable
  | _ => return .like .inTable

/-- The rules for a cell. -/
def cellStep (item : Item) : BuildM Outcome := do
  let leave : BuildM Outcome := do
    closeImplied
    popThrough (·.isHtmlOf ["td", "th"])
    dropToBorder
    setMode .inRow
    return .again
  match item with
  | .startTag tag =>
    if tableParts.contains tag.name then
      if ← inScope endsTableScope (·.isHtmlOf ["td", "th"]) then leave else return .done
    else return .like .inBody
  | .endTag name =>
    match name with
    | "td" | "th" =>
      if ← namedInScope endsTableScope name then
        closeImplied
        popThroughNamed name
        dropToBorder
        setMode .inRow
      return .done
    | "body" | "caption" | "col" | "colgroup" | "html" => return .done
    | "table" | "tbody" | "tfoot" | "thead" | "tr" =>
      if ← namedInScope endsTableScope name then leave else return .done
    | _ => return .like .inBody
  | _ => return .like .inBody

/-! ### Lists of options -/

/-- Closes the list of options and takes the mode that fits then; whether there was one. -/
def closeSelect : BuildM Bool := do
  if ← namedInScope endsSelectScope "select" then
    popThroughNamed "select"
    resetMode
    return true
  else return false

/-- The rules for a list of options. -/
def selectStep (item : Item) : BuildM Outcome := do
  match item with
  | .nul | .doctype _ => return .done
  | .spaces t | .words t =>
    insertText t
    return .done
  | .comment t =>
    insertComment t
    return .done
  | .ending => return .like .inBody
  | .startTag tag =>
    match tag.name with
    | "html" => return .like .inBody
    | "option" =>
      if ← currentIs "option" then pop
      let _ ← insertElement tag
      return .done
    | "optgroup" =>
      if ← currentIs "option" then pop
      if ← currentIs "optgroup" then pop
      let _ ← insertElement tag
      return .done
    | "select" =>
      let _ ← closeSelect
      return .done
    | "input" | "keygen" | "textarea" => if ← closeSelect then return .again else return .done
    | "script" | "template" => return .like .inHead
    | _ => return .done
  | .endTag name =>
    match name with
    | "optgroup" =>
      match openElements (← get) with
      | e :: f :: _ => if e.isHtml "option" && f.isHtml "optgroup" then pop
      | _ => pure ()
      if ← currentIs "optgroup" then pop
      return .done
    | "option" =>
      if ← currentIs "option" then pop
      return .done
    | "select" =>
      let _ ← closeSelect
      return .done
    | "template" => return .like .inHead
    | _ => return .done

/-- The rules for a list of options in a table. -/
def selectInTableStep (item : Item) : BuildM Outcome := do
  let parts := ["caption", "table", "tbody", "tfoot", "thead", "tr", "td", "th"]
  match item with
  | .startTag tag =>
    if parts.contains tag.name then
      popThroughNamed "select"
      resetMode
      return .again
    else return .like .inSelect
  | .endTag name =>
    if parts.contains name then
      if ← namedInScope endsTableScope name then
        popThroughNamed "select"
        resetMode
        return .again
      else return .done
    else return .like .inSelect
  | _ => return .like .inSelect

/-! ### Templates -/

/-- Takes another mode for the innermost template. -/
def switchTemplate (m : Mode) : BuildM Outcome := do
  modify fun b => { b with templateModes := m :: b.templateModes.tail, mode := m }
  return .again

/-- The rules for a template, whose content may be a part of anything. -/
def templateStep (item : Item) : BuildM Outcome := do
  match item with
  | .spaces _ | .words _ | .comment _ => return .like .inBody
  | .nul | .doctype _ => return .done
  | .startTag tag =>
    if headNames.contains tag.name then return .like .inHead
    else
      match tag.name with
      | "caption" | "colgroup" | "tbody" | "tfoot" | "thead" => switchTemplate .inTable
      | "col" => switchTemplate .inColumnGroup
      | "tr" => switchTemplate .inTableBody
      | "td" | "th" => switchTemplate .inRow
      | _ => switchTemplate .inBody
  | .endTag name => if name == "template" then return .like .inHead else return .done
  | .ending =>
    if ← isOpen "template" then
      popThroughNamed "template"
      dropToBorder
      modify fun b => { b with templateModes := b.templateModes.tail }
      resetMode
      return .again
    else return .done

end BuildM

end Html

end ChapterAssembly
