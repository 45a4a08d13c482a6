/-
**Storing and loading.**

A shelf keeps the texts of chapters and the catalogs of books in files.  What changes a file tells
of it with an event.

Main definitions:

* `ChapterAssembly.Storing` — work with files that may fail;
* `Shelf.save`, `Shelf.load`, `Shelf.has` — the texts of chapters;
* `Shelf.update`, `Shelf.loadCatalog` — the catalogs of books.
-/

import ChapterAssembly.Disk.Access
import ChapterAssembly.Notes.Event
import ChapterAssembly.Store.Catalog
import ChapterAssembly.Store.Shelf

set_option relaxedAutoImplicit false
set_option autoImplicit false

namespace ChapterAssembly

/-- Work with files that may fail. -/
abbrev Storing (m : Type → Type) := ExceptT StorageError m

namespace Storing

variable {m : Type → Type} [Monad m]

/-- Work whose failure is that of a disk. -/
def ofDisk {α : Type} (work : m (Except DiskError α)) : Storing m α :=
  ExceptT.mk do return (← work).mapError fun e => .io e.message

/-- The text of a file, if the file is there. -/
def readText? [Files m] (path : Text) : Storing m (Option Text) :=
  ExceptT.mk do
    match ← Files.readText path with
    | .ok t => return .ok (some t)
    | .error .missing => return .ok none
    | .error e => return .error (.io e.message)

end Storing

namespace Shelf

variable {m : Type → Type} [Monad m] [Files m]

/-! ### Texts of chapters -/

/-- Stores the text of a chapter. -/
def save (s : Shelf) (book : Book) (c : Chapter) (content : Text) : Storing m Event := do
  let path ← s.contentPath c
  Storing.ofDisk (Files.makeDirectories (← s.directory c.bookUrl))
  Storing.ofDisk (Files.write path (Utf8.encode content))
  return ⟨.debug, "stored chapter content", [("book", book.name),
    ("chapter", Text.ofNat c.index.toNat), ("path", path)]⟩

/-- The stored text of a chapter. -/
def load (s : Shelf) (c : Chapter) : Storing m Text := do
  match ← Storing.readText? (← s.contentPath c) with
  | some t => return t
  | none =>
    throw (.notFound ("No content stored for chapter ".toList ++ Text.ofNat c.index.toNat ++
      " of ".toList ++ c.bookUrl))

/-- Whether a text of a chapter is stored. -/
def has (s : Shelf) (c : Chapter) : Storing m Bool := do
  Storing.ofDisk (Files.isThere (← s.contentPath c))

/-! ### Catalogs -/

/-- The catalog in a file; without a file it is empty. -/
def readCatalog (path : Text) : Storing m Catalog := do
  match ← Storing.readText? path with
  | none => return []
  | some t =>
    match Catalog.ofText? t with
    | some c => return c
    | none => throw (.unreadable "this is no catalog")

/-- The stored catalog of a book. -/
def loadCatalog (s : Shelf) (bookUrl : Text) : Storing m Catalog := do
  let path ← s.catalogPath bookUrl
  if ← Storing.ofDisk (Files.isThere path) then readCatalog path
  else throw (.notFound ("No catalog stored for ".toList ++ bookUrl))

/-- Stores the entry of a chapter in the catalog of its book. -/
def update (s : Shelf) (now : Timestamp) (c : Chapter) : Storing m Event := do
  let path ← s.catalogPath c.bookUrl
  let catalog ← readCatalog path
  Storing.ofDisk (Files.makeDirectories (← s.directory c.bookUrl))
  let text := (catalog.insert (Entry.ofChapter now c)).text
  Storing.ofDisk (Files.write path (Utf8.encode text))
  return ⟨.debug, "updated catalog entry",
    [("chapter", Text.ofNat c.index.toNat), ("title", c.title)]⟩

end Shelf

end ChapterAssembly
