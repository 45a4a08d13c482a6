/-
**Formatting elements.**

Bold, links and their kind may be closed in the wrong order, or not at all before a paragraph ends.
The reader keeps a list of them: they are opened again in the next paragraph, and an end tag that
comes in the wrong place splits them so that the text keeps its look.

Main definitions:

* `BuildM.reopenFormatting` — opens again what was cut off;
* `BuildM.insertFormatting` — opens a formatting element and lists it;
* `BuildM.adopt` — closes a formatting element, splitting what overlaps it.
-/

import ChapterAssembly.Html.Builder.State

set_option relaxedAutoImplicit false
set_option autoImplicit false

namespace ChapterAssembly

namespace Html

namespace BuildM

open Builder

/-! ### The list of formatting elements -/

/-- The listed elements up to the latest border, the latest first. -/
def recentFormatting (b : Builder) : List (Nat × Tag) :=
  (b.formatting.takeWhile fun f => match f with
    | .border => false
    | .element _ _ => true).filterMap fun f => match f with
      | .border => none
      | .element i tag => some (i, tag)

/-- The listed element is the cell `i`. -/
def isEntryOf (i : Nat) : Formatting → Bool
  | .border => false
  | .element j _ => i == j

def addBorder : BuildM Unit :=
  modify fun b => { b with formatting := .border :: b.formatting }

/-- Forgets the listed elements up to the latest border, and the border. -/
def dropToBorder : BuildM Unit := modify fun b =>
  { b with formatting := (b.formatting.dropWhile fun f => match f with
      | .border => false
      | .element _ _ => true).tail }

/-- Takes a cell off the list. -/
def removeFormatting (i : Nat) : BuildM Unit :=
  modify fun b => { b with formatting := b.formatting.filter fun f => !isEntryOf i f }

/-- The listed element is open, or a border. -/
def isBorderOrOpen (b : Builder) : Formatting → Bool
  | .border => true
  | .element i _ => b.stack.contains i

/-- Opens again the listed elements that are not open, up to the latest that is. -/
def reopenFormatting : BuildM Unit := do
  let b ← get
  let closed := b.formatting.takeWhile fun f => !isBorderOrOpen b f
  if !closed.isEmpty then
    let rest := b.formatting.drop closed.length
    let mut done := rest
    for f in closed.reverse do
      match f with
      | .border => done := f :: done
      | .element _ tag =>
        let i ← insertElement { tag with selfClosing := false }
        done := .element i tag :: done
    modify fun b => { b with formatting := done }

/-- Two attribute lists hold the same attributes. -/
def sameAttributes (a b : Attributes) : Bool :=
  a.length == b.length && a.all fun x => b.contains x

/-- Opens a formatting element and lists it.  Of four alike the earliest is forgotten. -/
def insertFormatting (tag : Tag) : BuildM Unit := do
  let alike := (recentFormatting (← get)).filter fun (_, t) =>
    t.name == tag.name && sameAttributes t.attrs tag.attrs
  if 3 ≤ alike.length then
    match alike.getLast? with
    | some (i, _) => removeFormatting i
    | none => pure ()
  let i ← insertElement tag
  modify fun b => { b with formatting := .element i tag :: b.formatting }

/-! ### Closing in the wrong order -/

/-- Closes the innermost open element of the given name, unless an element that shapes the page is
in between. -/
def closeNamed (name : String) : BuildM Unit := do
  let before := (openElements (← get)).takeWhile fun e => !e.isHtml name && !isSpecial e
  match (openElements (← get))[before.length]? with
  | some e =>
    if e.isHtml name then
      let depth := (← get).stack.length - before.length
      closeImpliedBut name
      modify fun b => { b with stack := b.stack.drop (b.stack.length - (depth - 1)) }
  | none => pure ()

/-- Where a split element is listed: in its own place, or right behind another. -/
inductive Bookmark where
  | inPlaceOf (i : Nat)
  | behind (i : Nat)

/-- Splits the elements between a formatting element and the block inside it.  `above` are the
open elements outside `node`, the innermost first; the last one handled is moved into the copy of
the next.  Up to three elements are kept. -/
def splitBetween (formatting block : Nat) :
    Nat → List Nat → Nat → Bookmark → BuildM (Nat × Bookmark)
  | _, [], last, mark => return (last, mark)
  | count, node :: above, last, mark => do
    if node = formatting then return (last, mark)
    let count := count + 1
    let b ← get
    let entry := b.formatting.find? (isEntryOf node)
    match (if 3 < count then none else entry) with
    | some (.element _ tag) =>
      let copy ← createElement .html tag.name tag.attrs
      modify fun b =>
        { b with stack := b.stack.map fun i => if i = node then copy else i
                 formatting := b.formatting.map fun f =>
                   if isEntryOf node f then .element copy tag else f }
      let mark := if last = block then .behind copy else mark
      modify fun b => { b with arena := (b.arena.detach last).append copy last }
      splitBetween formatting block count above copy mark
    | _ =>
      if 3 < count then removeFormatting node
      removeFromStack node
      splitBetween formatting block count above last mark

/-- Lists a new entry at the bookmark and takes the split element off the list. -/
def relist (mark : Bookmark) (split : Nat) (entry : Formatting) : BuildM Unit :=
  modify fun b =>
    match mark with
    | .inPlaceOf i =>
      { b with formatting := b.formatting.map fun f => if isEntryOf i f then entry else f }
    | .behind i =>
      { b with formatting := (b.formatting.flatMap fun f =>
          if isEntryOf i f then [entry, f] else [f]).filter fun f => !isEntryOf split f }

/-- One round of closing a formatting element: whether another round is due. -/
def adoptOnce (name : String) : BuildM Bool := do
  let b ← get
  match (recentFormatting b).find? fun (_, tag) => tag.name == name with
  | none =>
    closeNamed name
    return false
  | some (formatting, tag) =>
    -- the element was closed before: only its entry is left
    if !b.stack.contains formatting then
      removeFormatting formatting
      return false
    let inside := b.stack.takeWhile (· != formatting)
    let reachable ← inScope endsScope fun e =>
      e.order == ((b.arena.element? formatting).map (·.order)).getD 0
    if !reachable then return false
    -- the outermost block inside is what overlaps; without one, closing is enough
    match (inside.filter fun i => isSpecial ((b.arena.element? i).getD default)).getLast? with
    | none =>
      modify fun b => { b with stack := (b.stack.dropWhile (· != formatting)).tail }
      removeFormatting formatting
      return false
    | some block =>
      let outside := (b.stack.dropWhile (· != formatting)).tail.headD 0
      let between := (b.stack.dropWhile (· != block)).tail
      let (last, mark) ← splitBetween formatting block 0 between block (.inPlaceOf formatting)
      modify fun b => { b with arena := b.arena.detach last }
      putCell (← placeIn outside) last
      let copy ← createElement .html tag.name tag.attrs
      -- the content of the block goes into a copy, and the copy into the block
      modify fun b => { b with arena := (b.arena.moveChildren block copy).append block copy }
      relist mark formatting (.element copy tag)
      removeFromStack formatting
      modify fun b =>
        { b with stack := b.stack.flatMap fun i => if i = block then [copy, i] else [i] }
      return true

/-- Repeats `adoptOnce` at most `n` times. -/
def adoptRounds (name : String) : Nat → BuildM Unit
  | 0 => return
  | n + 1 => do
    if ← adoptOnce name then adoptRounds name n

/-- Closes a formatting element at its end tag, splitting what overlaps it. -/
def adopt (name : String) : BuildM Unit := do
  let b ← get
  if (← currentIs name) && !(b.formatting.any (isEntryOf (← current))) then pop
  else adoptRounds name 8

end BuildM

end Html

end ChapterAssembly
