/-
**A page while it is being read.**

Reading HTML moves nodes about, so a page under construction is an array of cells that refer to
each other by number.  When reading is done the cells become a tree.

Main definitions:

* `Html.Arena` — the cells;
* `Arena.create`, `Arena.append`, `Arena.appendText`, `Arena.insertBefore`, `Arena.detach`,
  `Arena.moveChildren` — the operations, where neighbouring texts unite;
* `Arena.toNodes`, `Arena.toNode?` — the trees below a cell, and that of a cell.
-/

import ChapterAssembly.Html.Node

set_option relaxedAutoImplicit false
set_option autoImplicit false

namespace ChapterAssembly

namespace Html

/-- What a cell holds. -/
inductive CellContent where
  | page
  | element (e : Element)
  /-- A text, as pieces in reverse. -/
  | text (pieces : List Text)
  | comment (t : Text)
deriving Inhabited

/-- A cell: what it holds, and the cells around it. -/
structure Cell where
  content : CellContent
  parent : Option Nat := none
  children : Array Nat := #[]
deriving Inhabited

/-- The cells of a page.  The first is the page itself. -/
structure Arena where
  cells : Array Cell

namespace Arena

/-- A page without nodes. -/
def empty : Arena := ⟨#[{ content := .page }]⟩

def cell? (a : Arena) (i : Nat) : Option Cell := a.cells[i]?

def content? (a : Arena) (i : Nat) : Option CellContent := (a.cell? i).map (·.content)

def modify (a : Arena) (i : Nat) (f : Cell → Cell) : Arena := ⟨a.cells.modify i f⟩

/-- The element in a cell. -/
def element? (a : Arena) (i : Nat) : Option Element :=
  match a.cell? i with
  | some { content := .element e, .. } => some e
  | _ => none

def parent? (a : Arena) (i : Nat) : Option Nat := (a.cell? i).bind (·.parent)

def children (a : Arena) (i : Nat) : Array Nat := ((a.cell? i).map (·.children)).getD #[]

/-- A new cell outside the tree. -/
def create (a : Arena) (content : CellContent) : Nat × Arena :=
  (a.cells.size, ⟨a.cells.push { content }⟩)

/-- A new element outside the tree. -/
def createElement (a : Arena) (space : Space) (name : String) (attrs : Attributes) : Nat × Arena :=
  a.create (.element { order := a.cells.size, space, name, attrs })

/-- Puts a cell without parent behind the children of another. -/
def append (a : Arena) (parent child : Nat) : Arena :=
  (a.modify parent fun c => { c with children := c.children.push child }).modify child fun c =>
    { c with parent := some parent }

/-- Puts a cell without parent at a position among the children of another. -/
def insertAt (a : Arena) (parent position child : Nat) : Arena :=
  (a.modify parent fun c =>
    { c with children := c.children.insertIdxIfInBounds position child }).modify child fun c =>
      { c with parent := some parent }

/-- Takes a cell out of its parent. -/
def detach (a : Arena) (child : Nat) : Arena :=
  match a.parent? child with
  | none => a
  | some p =>
    (a.modify p fun c => { c with children := c.children.filter (· != child) }).modify child fun c =>
      { c with parent := none }

/-- The cell holds text. -/
def isText (a : Arena) (i : Nat) : Bool :=
  match a.cell? i with
  | some { content := .text _, .. } => true
  | _ => false

/-- Puts a text behind the text of a cell. -/
def extendText (a : Arena) (i : Nat) (t : Text) : Arena :=
  a.modify i fun c =>
    match c.content with
    | .text pieces => { c with content := .text (t :: pieces) }
    | _ => c

/-- Puts a text behind the children of a cell; it unites with a text there. -/
def appendText (a : Arena) (parent : Nat) (t : Text) : Arena :=
  match (a.children parent).back? with
  | some last =>
    if a.isText last then a.extendText last t
    else
      let (i, a) := a.create (.text [t])
      a.append parent i
  | none =>
    let (i, a) := a.create (.text [t])
    a.append parent i

/-- The parent of a cell and the position there. -/
def place? (a : Arena) (i : Nat) : Option (Nat × Nat) :=
  (a.parent? i).bind fun p => ((a.children p).findIdx? (· == i)).map fun k => (p, k)

/-- Puts a cell without parent in front of another one. -/
def insertBefore (a : Arena) (sibling child : Nat) : Arena :=
  match a.place? sibling with
  | some (p, k) => a.insertAt p k child
  | none => a

/-- Puts a text in front of a cell; it unites with a text there. -/
def insertTextBefore (a : Arena) (sibling : Nat) (t : Text) : Arena :=
  match a.place? sibling with
  | none => a
  | some (p, k) =>
    match if k = 0 then none else (a.children p)[k - 1]? with
    | some i =>
      if a.isText i then a.extendText i t
      else
        let (i, a) := a.create (.text [t])
        a.insertAt p k i
    | none =>
      let (i, a) := a.create (.text [t])
      a.insertAt p k i

/-- Moves all children of one cell behind the children of another. -/
def moveChildren (a : Arena) (source target : Nat) : Arena :=
  let moved := a.children source
  let a := a.modify source fun c => { c with children := #[] }
  let a := a.modify target fun c => { c with children := c.children ++ moved }
  moved.foldl (fun a i => a.modify i fun c => { c with parent := some target }) a

/-- Adds the attributes that an element lacks. -/
def addMissingAttributes (a : Arena) (i : Nat) (attrs : Attributes) : Arena :=
  a.modify i fun c =>
    match c.content with
    | .element e =>
      { c with content :=
        .element { e with attrs := attrs.foldl (fun as (k, v) => Token.addAttribute as k v) e.attrs } }
    | _ => c

/-! ### Trees -/

/-- The node in a cell, with what `inside` gives for an element's cell in it.  The content of a
template is a fragment. -/
def nodeWith? (a : Arena) (inside : Nat → List Node) (i : Nat) : Option Node :=
  match a.content? i with
  | some (.element e) =>
    some (.element e (if e.isHtml "template" then [.fragment (inside i)] else inside i))
  | some (.text pieces) => some (.text pieces.reverse.flatten)
  | some (.comment t) => some (.comment t)
  | _ => none

/-- The nodes in a cell, at most `depth` levels deep. -/
def nodesIn (a : Arena) : Nat → Nat → List Node
  | 0, _ => []
  | depth + 1, i => (a.children i).toList.filterMap (a.nodeWith? (nodesIn a depth))

/-- The nodes in a cell; no tree is deeper than it has cells. -/
def toNodes (a : Arena) (i : Nat) : List Node := a.nodesIn (a.cells.size + 1) i

/-- The tree of a cell. -/
def toNode? (a : Arena) (i : Nat) : Option Node := a.nodeWith? a.toNodes i

end Arena

end Html

end ChapterAssembly
