/-
**Sources, books and chapters as JSON.**

Main definitions:

* `RuleSet.read`, `Source.read`, `Book.read`, `Chapter.read` — readers of records;
* `RuleSet.toJson`, `Source.toJson`, `Book.toJson`, `Chapter.toJson` — records as JSON.
-/

import ChapterAssembly.Book.Basic
import ChapterAssembly.Json.Read

set_option relaxedAutoImplicit false
set_option autoImplicit false

namespace ChapterAssembly

open Json (Read)

/-- Reads rules. -/
def RuleSet.read : Read RuleSet :=
  Read.record [
    Read.field "content" Read.text fun r v => { r with content := v },
    Read.field "title" (Read.optional Read.text) fun r v => { r with title := v },
    Read.field "nextContentUrl" (Read.optional Read.text) fun r v => { r with nextPages := v },
    Read.field "replaceRegex" (Read.optional Read.text) fun r v => { r with replace := v }] {}

/-- Reads a source. -/
def Source.read : Read Source :=
  Read.record [
    Read.field "key" Read.text fun s v => { s with key := v },
    Read.field "name" Read.text fun s v => { s with name := v },
    Read.field "headers" Read.headers fun s v => { s with headers := v },
    Read.field "contentRule" RuleSet.read fun s v => { s with rules := v }] {}

/-- Reads a book. -/
def Book.read : Read Book :=
  Read.record [
    Read.field "url" Read.text fun b v => { b with url := v },
    Read.field "name" Read.text fun b v => { b with name := v },
    Read.field "author" Read.text fun b v => { b with author := v },
    Read.field "origin" Read.text fun b v => { b with origin := v }] {}

/-- Reads a chapter. -/
def Chapter.read : Read Chapter :=
  Read.record [
    Read.field "bookUrl" Read.text fun c v => { c with bookUrl := v },
    Read.field "index" Read.index fun c v => { c with index := v },
    Read.field "url" Read.text fun c v => { c with url := v },
    Read.field "title" Read.text fun c v => { c with title := v },
    Read.field "isVolume" Read.flag fun c v => { c with isVolume := v },
    Read.field "reviewImage" (Read.optional Read.text) fun c v => { c with reviewImage := v }] {}

/-- Rules as JSON. -/
def RuleSet.toJson (r : RuleSet) : Json :=
  .object [("content", .string r.content), ("title", .ofOption r.title),
    ("nextContentUrl", .ofOption r.nextPages), ("replaceRegex", .ofOption r.replace)]

/-- A source as JSON. -/
def Source.toJson (s : Source) : Json :=
  .object [("key", .string s.key), ("name", .string s.name),
    ("headers", .object (s.headers.map fun h => (h.1, .string h.2))),
    ("contentRule", s.rules.toJson)]

/-- A book as JSON. -/
def Book.toJson (b : Book) : Json :=
  .object [("url", .string b.url), ("name", .string b.name), ("author", .string b.author),
    ("origin", .string b.origin)]

/-- A chapter as JSON. -/
def Chapter.toJson (c : Chapter) : Json :=
  .object [("bookUrl", .string c.bookUrl), ("index", .number c.index.toNat),
    ("url", .string c.url), ("title", .string c.title), ("isVolume", .bool c.isVolume),
    ("reviewImage", .ofOption c.reviewImage)]

end ChapterAssembly
