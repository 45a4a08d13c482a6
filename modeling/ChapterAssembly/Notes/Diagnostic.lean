/-
**Values as diagnostics show them.**

A diagnostic shows a value by its name and its fields between braces.

Main definitions:

* `Diagnostic.record` — a name with fields;
* `Diagnostic.chapter`, `Diagnostic.page`, … — the values of the library.
-/

import ChapterAssembly.Book.Basic
import ChapterAssembly.Fetch.Basic
import ChapterAssembly.Fetch.Config
import ChapterAssembly.Notes.Event

set_option relaxedAutoImplicit false
set_option autoImplicit false

namespace ChapterAssembly

namespace Diagnostic

/-- A name with fields; `closed` says that these are all. -/
def record (name : String) (fields : List (String × Text)) (closed : Bool) : Text :=
  let shown := fields.map fun f => f.1.toList ++ ": ".toList ++ f.2
  let shown := if closed then shown else shown ++ ["..".toList]
  if shown.isEmpty then name.toList
  else name.toList ++ " \x7b ".toList ++ Text.joinWith ", ".toList shown ++ " \x7d".toList

/-- An optional text. -/
def optional (t : Option Text) : Text := Text.option (t.map Text.quoted)

/-- Something that works for the source with the given key. -/
def worker (name : String) (source : Text) : Text :=
  record name [("source_key", Text.quoted source)] true

/-- What extracts pages for a source. -/
def extractor (source : Text) : Text := worker "PageExtractor" source

/-- What resolves titles for a source. -/
def titleResolver (source : Text) : Text := worker "TitleResolver" source

/-- What normalizes texts. -/
def normalizer : Text := record "ContentNormalizer" [] false

/-- What assembles pages for a source, with a pool of the given size. -/
def orchestrator (source : Text) (poolSize : Nat) : Text :=
  record "PaginationOrchestrator"
    [("source_key", Text.quoted source), ("pool_size", Text.ofNat poolSize)] true

/-- A pool; `slots` shows its slots. -/
def pool (slots : Text) (size : Nat) : Text :=
  record "FetchPool" [("semaphore", slots), ("size", Text.ofNat size)] true

/-- A service with a pool. -/
def service (slots : Text) (size : Nat) : Text :=
  record "ChapterContentService" [("pool", pool slots size)] false

/-- Headers. -/
def headers (hs : Headers) : Text :=
  let shown := hs.map fun h => Text.quoted h.1 ++ ": ".toList ++ Text.quoted h.2
  "\x7b".toList ++ Text.joinWith ", ".toList shown ++ "\x7d".toList

/-- A fetcher with the given settings. -/
def fetcher (c : FetchConfig) : Text :=
  record "HttpFetcher" [("default_headers", headers c.defaultHeaders),
    ("rate_limited", Text.ofBool c.requestsPerMinute.isSome)] true

/-- A page as it came back. -/
def page (p : FetchedPage) : Text :=
  record "FetchedPage" [("requested_url", Text.quoted p.requestedUrl),
    ("final_url", Text.quoted p.finalUrl), ("body", optional p.body)] true

/-- A chapter. -/
def chapter (c : Chapter) : Text :=
  record "Chapter" [("book_url", Text.quoted c.bookUrl), ("index", Text.ofNat c.index.toNat),
    ("url", Text.quoted c.url), ("title", Text.quoted c.title),
    ("is_volume", Text.ofBool c.isVolume), ("review_image", optional c.reviewImage)] true

/-- Rules. -/
def rules (r : RuleSet) : Text :=
  record "ChapterRuleSet" [("content", Text.quoted r.content), ("title", optional r.title),
    ("next_content_url", optional r.nextPages), ("replace_regex", optional r.replace)] true

end Diagnostic

end ChapterAssembly
