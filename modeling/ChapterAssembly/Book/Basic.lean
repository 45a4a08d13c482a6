/-
**Sources, books and chapters.**

Main definitions:

* `ChapterAssembly.RuleSet` — the rules by which a chapter is taken from a source's pages;
* `ChapterAssembly.Source` — a website that books are read from;
* `ChapterAssembly.Book`, `ChapterAssembly.Chapter` — a book, and an entry of its table of contents.
-/

import ChapterAssembly.Book.Headers

set_option relaxedAutoImplicit false
set_option autoImplicit false

namespace ChapterAssembly

/-- The rules by which a chapter is taken from the pages of a source. -/
structure RuleSet where
  /-- Where the text of the chapter is. -/
  content : Text := []
  /-- Where its title is, if pages have a better one than the table of contents. -/
  title : Option Text := none
  /-- Where the links to its further pages are. -/
  nextPages : Option Text := none
  /-- What is replaced in its text in the end. -/
  replace : Option Text := none
deriving Repr, DecidableEq, Inhabited

/-- An optional rule that is not blank. -/
def RuleSet.given (rule : Option Text) : Option Text := rule.filter fun r => !Text.isBlankText r

/-- A website that books are read from. -/
structure Source where
  key : Text := []
  name : Text := []
  /-- What every request to the source is sent with. -/
  headers : Headers := []
  rules : RuleSet := {}
deriving Repr, DecidableEq, Inhabited

/-- A source that goes by its key. -/
def Source.ofKey (key : Text) (rules : RuleSet) : Source := { key, name := key, rules }

/-- A source that sends a header with every request. -/
def Source.withHeader (s : Source) (name value : Text) : Source :=
  { s with headers := s.headers.insert name value }

/-- A book. -/
structure Book where
  /-- The page about the book, which it is known by. -/
  url : Text := []
  name : Text := []
  author : Text := []
  /-- The key of the source where it was found. -/
  origin : Text := []
deriving Repr, DecidableEq, Inhabited

/-- An entry of a book's table of contents. -/
structure Chapter where
  bookUrl : Text := []
  index : UInt32 := 0
  /-- The first page of the chapter. -/
  url : Text := []
  title : Text := []
  /-- The entry is a heading without text of its own. -/
  isVolume : Bool := false
  /-- The image that belongs to the title. -/
  reviewImage : Option Text := none
deriving Repr, DecidableEq, Inhabited

end ChapterAssembly
