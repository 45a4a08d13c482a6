/-
**Setting up the service.**

The service that fetches chapters needs something that fetches pages, somewhere to store texts, and
a table of contents to keep up to date.  Its pool is shared with others, or made to the size that
the settings say.

Main definitions:

* `ChapterAssembly.ContentConfig` — the settings;
* `ChapterAssembly.Service.poolOf` — the pool of a service, or what it lacks.
-/

import ChapterAssembly.Content.Pool
import ChapterAssembly.Error
import ChapterAssembly.Notes.Event

set_option relaxedAutoImplicit false
set_option autoImplicit false

namespace ChapterAssembly

open Content

/-- The settings of the service. -/
structure ContentConfig where
  /-- How many pages may be fetched side by side. -/
  concurrency : Nat := 8
deriving Repr, DecidableEq

/-- A number of pages that may be fetched side by side; one at least. -/
def ContentConfig.withConcurrency (n : Nat) : ContentConfig := ⟨max n 1⟩

namespace Service

/-- What a service is given. -/
structure Parts where
  fetcher : Bool := true
  sink : Bool := true
  chapterStore : Bool := true
  config : ContentConfig := {}
  /-- The size of the pool that the service shares with others. -/
  sharedPool : Option (Pool (Nat × Nat)) := none

/-- The pool of a service with the given parts, or what it lacks.  An event tells of a shared pool
of another size than the settings say. -/
def poolOf (p : Parts) : Except Error (Pool (Nat × Nat)) × List Event :=
  if !p.fetcher then (.error (.other "ChapterContentService requires a fetcher"), [])
  else if !p.sink then (.error (.other "ChapterContentService requires a content sink"), [])
  else if !p.chapterStore then
    (.error (.other "ChapterContentService requires a chapter store"), [])
  else
    match p.sharedPool with
    | none => (.ok (.ofSize p.config.concurrency), [])
    | some pool =>
      let told := if pool.size = p.config.concurrency then [] else
        [⟨.warn, "shared fetch pool overrides configured concurrency",
          [("pool", Text.ofNat pool.size), ("configured", Text.ofNat p.config.concurrency)]⟩]
      (.ok pool, told)

end Service

end ChapterAssembly
