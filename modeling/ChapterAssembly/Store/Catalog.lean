/-
**Catalogs.**

The catalog of a book holds an entry for every chapter that is known, in the order of their indices.
It is kept as XML: an element for each entry, with an element for each field.

Main definitions:

* `ChapterAssembly.Entry` — an entry, of a chapter and the moment it was written;
* `ChapterAssembly.Catalog`, `Catalog.insert` — the entries, and a catalog with one more;
* `Catalog.text`, `Catalog.ofText?` — a catalog as XML;
* `Entry.toJson` — an entry as JSON.
-/

import ChapterAssembly.Book.Basic
import ChapterAssembly.Json.Basic
import ChapterAssembly.Time.Timestamp
import ChapterAssembly.Xml.Element

set_option relaxedAutoImplicit false
set_option autoImplicit false

namespace ChapterAssembly

/-- An entry of a catalog. -/
structure Entry where
  index : UInt32
  url : Text
  title : Text
  isVolume : Bool := false
  reviewImage : Option Text := none
  /-- When the entry was written. -/
  updatedAt : Timestamp
deriving DecidableEq

namespace Entry

/-- The entry of a chapter at a moment. -/
def ofChapter (now : Timestamp) (c : Chapter) : Entry where
  index := c.index
  url := c.url
  title := c.title
  isVolume := c.isVolume
  reviewImage := c.reviewImage
  updatedAt := now

/-- The chapter of a book that an entry is about. -/
def toChapter (bookUrl : Text) (e : Entry) : Chapter where
  bookUrl
  index := e.index
  url := e.url
  title := e.title
  isVolume := e.isVolume
  reviewImage := e.reviewImage

@[simp] theorem toChapter_ofChapter (now : Timestamp) (c : Chapter) :
    (ofChapter now c).toChapter c.bookUrl = c := rfl

/-- An entry as JSON. -/
def toJson (e : Entry) : Json :=
  let image : List (Text × Json) := e.reviewImage.toList.map fun t => ("review_image", .string t)
  let moment : Text × Json := ("updated_at", .string (e.updatedAt.text ['Z']))
  .object (("index", .number e.index.toNat) :: ("url", .string e.url) ::
    ("title", .string e.title) :: ("is_volume", .bool e.isVolume) :: (image ++ [moment]))

end Entry

/-- The entries of a book's catalog. -/
abbrev Catalog := List Entry

namespace Catalog

/-! ### One more entry -/

/-- Some entries with `e` in place of the first with its index, or at the end. -/
def place (e : Entry) : Catalog → Catalog
  | [] => [e]
  | d :: ds => if d.index = e.index then e :: ds else d :: place e ds

/-- A catalog with an entry, in the order of the indices. -/
def insert (e : Entry) (c : Catalog) : Catalog :=
  (place e c).mergeSort fun a b => a.index ≤ b.index

/-! ### Writing -/

/-- An element with a text. -/
def elementText (name content : Text) : Text :=
  if content.isEmpty then '<' :: (name ++ ['/', '>'])
  else '<' :: (name ++ '>' :: (content ++ '<' :: '/' :: (name ++ ['>'])))

/-- A field of an entry. -/
def fieldText (name value : Text) : Text := elementText name (Xml.escape value)

/-- The fields of an entry, with their values as text. -/
def fields (e : Entry) : List (Text × Text) :=
  let image : List (Text × Text) := e.reviewImage.toList.map fun t => ("review_image", t)
  ("index", Text.ofNat e.index.toNat) :: ("url", e.url) :: ("title", e.title) ::
    ("is_volume", if e.isVolume then "true" else "false") ::
    (image ++ [("updated_at".toList, e.updatedAt.text ['Z'])])

/-- An entry as XML. -/
def entryText (e : Entry) : Text :=
  elementText "chapter" ((fields e).flatMap fun f => fieldText f.1 f.2)

/-- What every catalog starts with. -/
def heading : Text := "<?xml version=\"1.0\" encoding=\"UTF-8\"?>\n"

/-- A catalog as XML. -/
def text (c : Catalog) : Text := heading ++ elementText "catalog" (c.flatMap entryText)

/-! ### Reading -/

/-- What is known of an entry while it is read. -/
structure Draft where
  index : Option UInt32 := none
  url : Option Text := none
  title : Option Text := none
  isVolume : Option Bool := none
  reviewImage : Option (Option Text) := none
  updatedAt : Option Timestamp := none

/-- The index that a text names. -/
def index? (t : Text) : Option UInt32 := do
  let n ← Text.decimal? (match t with
    | '+' :: digits => digits
    | _ => t)
  if n < UInt32.size then return n.toUInt32 else none

/-- The truth value that a text names. -/
def flag? (t : Text) : Option Bool :=
  if t = "true" ∨ t = "1" then some true
  else if t = "false" ∨ t = "0" then some false
  else none

/-- A value that was not there before. -/
def once {α : Type} (before : Option α) (value : Option α) : Option (Option α) :=
  match before, value with
  | none, some v => some (some v)
  | _, _ => none

/-- What is known of an entry after one more element of it; fields that no entry has are passed
over.  `names` are the names of namespaces around the element, and `tag` is the tag of the entry. -/
def Draft.add (names : List (Text × Text)) (tag : Text) (d : Draft) (e : Xml.Element) :
    Option Draft :=
  let field := e.localName
  if field = "index" then (once d.index (e.text? >>= index?)).map ({ d with index := · })
  else if field = "url" then (once d.url e.text?).map ({ d with url := · })
  else if field = "title" then (once d.title e.text?).map ({ d with title := · })
  else if field = "is_volume" then
    (once d.isVolume (e.text? >>= flag?)).map ({ d with isVolume := · })
  else if field = "review_image" then
    let isNil := Xml.Element.isNil names tag || Xml.Element.isNil names e.tag
    let image := if isNil then if e.isPassable then some none else none else e.text?.map some
    (once d.reviewImage image).map ({ d with reviewImage := · })
  else if field = "updated_at" then
    (once d.updatedAt (e.text? >>= Timestamp.ofText?)).map ({ d with updatedAt := · })
  else if e.isPassable then some d
  else none

/-- The entry of which all is known that must be. -/
def Draft.finish (d : Draft) : Option Entry := do
  return {
    index := ← d.index
    url := ← d.url
    title := ← d.title
    isVolume := d.isVolume.getD false
    reviewImage := d.reviewImage.getD none
    updatedAt := ← d.updatedAt }

/-- The entry that an element stands for; runs of character data in it do not count. -/
def entry? (names : List (Text × Text)) (e : Xml.Element) : Option Entry := do
  let _ ← Xml.attributes? [] e.tag
  let names := Xml.Element.declared e.tag ++ names
  let draft ← (← e.items?).foldlM (fun d item =>
    match item with
    | .text _ => some d
    | .element f => d.add names e.tag f) ({} : Draft)
  draft.finish

/-- Where the reader of a catalog is: before the entries, among entries of a name, or behind. -/
inductive Part where
  | before
  | among (name : Text)
  | behind
deriving DecidableEq

/-- The entries of some content.  All entries stand together. -/
def entries? (names : List (Text × Text)) : Part → List Xml.Item → Option Catalog
  | _, [] => some []
  | .before, .text _ :: items => entries? names .before items
  | _, .text _ :: items => entries? names .behind items
  | part, .element e :: items =>
    if part = .among e.name ∨ (part = .before ∧ e.localName = "chapter") then do
      return (← entry? names e) :: (← entries? names (.among e.name) items)
    else if e.localName = "chapter" then none
    else if e.isPassable then
      entries? names (if part = .before then .before else .behind) items
    else none

/-- The catalog that XML holds; the name of the root does not count. -/
def ofText? (t : Text) : Option Catalog := do
  let root ← Xml.root? t
  let _ ← Xml.attributes? [] root.tag
  entries? (Xml.Element.declared root.tag) .before (← root.items?)

end Catalog

end ChapterAssembly
