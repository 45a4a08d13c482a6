/-
**Where books are kept.**

Every book has a directory of its own, named for the host and the path of its address, with a file
for the text of each chapter and one for the catalog.

Main definitions:

* `ChapterAssembly.Shelf` — a place for books;
* `Shelf.directory` — the directory of a book;
* `Shelf.contentPath`, `Shelf.catalogPath` — the files in it.
-/

import ChapterAssembly.Book.Basic
import ChapterAssembly.Store.Error
import ChapterAssembly.Url.Parse

set_option relaxedAutoImplicit false
set_option autoImplicit false

namespace ChapterAssembly

/-- A place for books: the directory that theirs are in. -/
structure Shelf where
  base : Text := ".folio/books"
deriving Repr, DecidableEq

namespace Shelf

/-- A path with one more name. -/
def join (path name : Text) : Text :=
  if path.isEmpty ∨ path.getLast? = some '/' then path ++ name else path ++ '/' :: name

/-- A text with an underscore for everything but letters and digits.  What it is used for are parts
of URLs, which are ASCII. -/
def sanitize (t : Text) : Text := t.map fun c => if c.isAlphanum then c else '_'

/-- A text without the underscores at its two ends. -/
def trimUnderscores (t : Text) : Text :=
  ((t.dropWhile (· == '_')).reverse.dropWhile (· == '_')).reverse

/-- The name of the directory of the book at a URL. -/
def nameOf (u : Url) : Text :=
  let query := match u.query with
    | some q => '_' :: sanitize q
    | none => []
  let name := trimUnderscores (sanitize u.pathText ++ query)
  if name.isEmpty then "index" else name

/-- The directory of the book at an address. -/
def directory (s : Shelf) (bookUrl : Text) : Except StorageError Text :=
  match Url.parse bookUrl with
  | .error e => .error (.url e)
  | .ok u =>
    match u.hostText? with
    | some host => .ok (join (join s.base host) (nameOf u))
    | none => .error (.noHost bookUrl)

/-- The name of the file of a chapter: its index, with five digits at least. -/
def contentName (index : UInt32) : Text :=
  Text.padStart 5 '0' (Text.ofNat index.toNat) ++ ".txt".toList

/-- The file for the text of a chapter. -/
def contentPath (s : Shelf) (c : Chapter) : Except StorageError Text :=
  (s.directory c.bookUrl).map (join · (contentName c.index))

/-- The name of the file of a catalog. -/
def catalogName : Text := "catalog.xml"

/-- The file for the catalog of a book. -/
def catalogPath (s : Shelf) (bookUrl : Text) : Except StorageError Text :=
  (s.directory bookUrl).map (join · catalogName)

end Shelf

end ChapterAssembly
