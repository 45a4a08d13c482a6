/-
**Running commands.**

A command writes what it was asked for, or fails with one line that says why.

Main definitions:

* `ChapterAssembly.CommandError` — why a command fails, with its wording;
* `ChapterAssembly.Report` — what a command writes and how it ends;
* `Command.run` — a command at work;
* `Command.runArguments` — the program, from its arguments on.
-/

import ChapterAssembly.Book.Json
import ChapterAssembly.Command.Basic
import ChapterAssembly.Fetch.Fetcher
import ChapterAssembly.Store.Access

set_option relaxedAutoImplicit false
set_option autoImplicit false

namespace ChapterAssembly

/-- Why a command fails. -/
inductive CommandError where
  /-- The definition of a source cannot be read from its file. -/
  | source (path : Text) (error : DiskError)
  | json (error : JsonError)
  | fetch (error : FetchError)
  | storage (error : StorageError)
deriving Repr, DecidableEq

/-- The wording of an error. -/
def CommandError.message : CommandError → Text
  | .source path _ => "reading source " ++ path
  | .json e => e.message
  | .fetch e => e.message
  | .storage e => e.message

/-- How a command ends. -/
inductive Ending where
  | success
  | failure (error : CommandError)
  /-- The arguments ask for no command. -/
  | refusal (error : UsageError)
deriving Repr, DecidableEq

/-- The code by which the program tells how it ended. -/
def Ending.code : Ending → UInt32
  | .success => 0
  | .failure _ => 1
  | .refusal _ => 2

/-- What is said about an end other than success. -/
def Ending.complaint? : Ending → Option Text
  | .success => none
  | .failure e => some ("Error: ".toList ++ e.message)
  | .refusal e => some ("error: ".toList ++ e.message)

/-- What a command writes, and how it ends. -/
structure Report where
  output : Text := []
  ending : Ending := .success
deriving Repr, DecidableEq

/-- The report of a failure behind some output. -/
def Report.failed (e : CommandError) (output : Text) : Report := ⟨output, .failure e⟩

namespace Command

variable {m : Type → Type} [Monad m] [Files m]

/-! ### Catalogs -/

/-- The lines that show an entry. -/
def entryLines (stored : Bool) (e : Entry) : Text :=
  (if e.isVolume then "+" else " ").toList ++
    Text.padStart 5 ' ' (Text.ofNat e.index.toNat) ++ "  ".toList ++
    Text.padEnd 40 ' ' e.title ++ "  ".toList ++
    Text.padEnd 6 ' ' (if stored then "stored" else "-").toList ++ "  ".toList ++
    e.updatedAt.text "+00:00" ++ ['\n'] ++
    (match e.reviewImage with
      | some image => "        image: ".toList ++ image ++ ['\n']
      | none => [])

/-- The lines that show some entries, up to the first that fails. -/
def showEntries (shelf : Shelf) (bookUrl : Text) : Catalog → m Report
  | [] => return {}
  | e :: es => do
    match ← (shelf.has (e.toChapter bookUrl)).run with
    | .error error => return .failed (.storage error) []
    | .ok stored =>
      let r ← showEntries shelf bookUrl es
      return { r with output := entryLines stored e ++ r.output }

/-- Shows a catalog. -/
def showCatalog (o : CatalogOptions) : m Report := do
  let shelf : Shelf := ⟨o.output⟩
  match ← (shelf.loadCatalog o.book).run with
  | .error e => return .failed (.storage e) []
  | .ok c =>
    match o.layout with
    | .json => return { output := (Json.array (c.map Entry.toJson)).pretty ++ ['\n'] }
    | .text => showEntries shelf o.book c

/-! ### Fetching -/

/-- The settings for a source: its headers, and a quota if there is one. -/
def fetchConfig (source : Source) (rate : Option Nat) : FetchConfig :=
  let c := source.headers.foldl (fun c h => c.withHeader h.1 h.2) {}
  match rate with
  | some n => c.withRequestsPerMinute n
  | none => c

/-- The request for the first page of a chapter. -/
def firstRequest (o : FetchOptions) (definition : Text) : Except CommandError Request := do
  let source ← (Json.Read.all Source.read definition).mapError .json
  let fetcher ← (Fetcher.ofConfig (fetchConfig source o.rate)).mapError .fetch
  (fetcher.prepare ⟨o.url, source.headers⟩ none).1.result.mapError .fetch

/-- Fetches a chapter.  There is no network here: what can be sent finds no connection. -/
def fetchChapter (o : FetchOptions) : m Report := do
  match ← Files.readText o.source with
  | .error e => return .failed (.source o.source e) []
  | .ok definition =>
    match firstRequest o definition with
    | .error e => return .failed e []
    | .ok _ => return .failed (.fetch (.http .connect)) []

/-! ### The program -/

/-- How the program is used. -/
def usage : Text :=
  "Rule-driven chapter content assembly\n\n" ++
  "Usage: folio [-v] fetch --source <SOURCE> [OPTIONS] <URL>\n" ++
  "       folio [-v] catalog [--output <OUTPUT>] [--format <text|json>] <BOOK>\n"

/-- A command at work. -/
def run : Command → m Report
  | fetch o => fetchChapter o
  | catalog o => showCatalog o
  | help => return { output := usage }
  | version => return { output := "folio 0.1.0\n" }

/-- The program, from its arguments on. -/
def runArguments (arguments : List Text) : m Report :=
  match ofArguments arguments with
  | .ok c => c.run
  | .error e => return { ending := .refusal e }

end Command

end ChapterAssembly
