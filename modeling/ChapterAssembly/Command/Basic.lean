/-
**Commands.**

Main definitions:

* `ChapterAssembly.Command` — what the program is asked to do;
* `Command.ofArguments` — the command that arguments ask for.
-/

import ChapterAssembly.Command.Arguments

set_option relaxedAutoImplicit false
set_option autoImplicit false

namespace ChapterAssembly

/-- How a catalog is shown. -/
inductive Layout where
  | text
  | json
deriving Repr, DecidableEq

/-- What to fetch, and how. -/
structure FetchOptions where
  /-- The file that defines the source. -/
  source : Text
  url : Text
  /-- The book, if it is not known by the address of the chapter. -/
  book : Option Text := none
  nextChapter : Option Text := none
  title : Text := []
  index : UInt32 := 0
  isVolume : Bool := false
  output : Text := ".folio/books"
  concurrency : Nat := 8
  rate : Option Nat := none
  dryRun : Bool := false
deriving Repr, DecidableEq

/-- Which catalog to show, and how. -/
structure CatalogOptions where
  book : Text
  output : Text := ".folio/books"
  layout : Layout := .text
deriving Repr, DecidableEq

/-- What the program is asked to do. -/
inductive Command where
  /-- Fetches a chapter and stores it. -/
  | fetch (options : FetchOptions)
  /-- Shows a stored catalog. -/
  | catalog (options : CatalogOptions)
  /-- Shows how the program is used. -/
  | help
  | version
deriving Repr, DecidableEq

namespace Command

/-! ### Values of options -/

/-- The number that a text names, below a bound; a sign does no harm. -/
def number? (bound : Nat) (t : Text) : Option Nat :=
  (Text.decimal? (match t with
    | '+' :: ds => ds
    | _ => t)).filter (· < bound)

/-- The number of 32 bits that a text names; zero may be negative. -/
def number32? (t : Text) : Option Nat :=
  match t with
  | '-' :: ds => (Text.decimal? ds).filter (· == 0)
  | _ => number? UInt32.size t

/-- The layout that a text names. -/
def layout? (t : Text) : Option Layout :=
  if t = "text" then some .text else if t = "json" then some .json else none

/-! ### Options -/

def helpOption : Opt := { long := "help", short := some 'h', kind := .help }

def verboseOption : Opt := { long := "verbose", short := some 'v', kind := .switch }

def outputOption : Opt :=
  { long := "output", short := some 'o', kind := .value fun t => !t.isEmpty }

/-- The options in front of a command. -/
def programForm : Form where
  options := [verboseOption, helpOption, { long := "version", short := some 'V', kind := .version }]
  commands := true

/-- The options of `fetch`. -/
def fetchForm : Form where
  options := [
    { long := "source", short := some 's', kind := .value fun t => !t.isEmpty },
    { long := "book", short := some 'b' },
    { long := "next-chapter", short := some 'n' },
    { long := "title", short := some 't' },
    { long := "index", short := some 'i', kind := .value fun t => (number32? t).isSome },
    { long := "volume", kind := .switch },
    outputOption,
    { long := "concurrency", short := some 'c',
      kind := .value fun t => (number? UInt64.size t).isSome },
    { long := "rate", short := some 'r', kind := .value fun t => (number32? t).isSome },
    { long := "dry-run", kind := .switch },
    verboseOption, helpOption]
  plain := 1

/-- The options of `catalog`. -/
def catalogForm : Form where
  options := [
    outputOption,
    { long := "format", short := some 'f', kind := .value fun t => (layout? t).isSome },
    verboseOption, helpOption]
  plain := 1

/-! ### Reading -/

/-- The first argument that is no option, which a command needs. -/
def needed (g : Given) (name : Text) : Except Stop Text :=
  match g.plain.head? with
  | some a => .ok a
  | none => .error (.usage (.missing name))

/-- A `fetch` command. -/
def readFetch (arguments : List Text) : Except Stop Command := do
  let (g, _) ← fetchForm.read arguments
  let url ← needed g "URL"
  match g.value? "source" with
  | none => .error (.usage (.missing "--source"))
  | some source =>
    let standard : FetchOptions := { source, url }
    return .fetch { standard with
      book := g.value? "book"
      nextChapter := g.value? "next-chapter"
      title := (g.value? "title").getD standard.title
      index := ((g.value? "index").bind number32?).elim standard.index Nat.toUInt32
      isVolume := g.has "volume"
      output := (g.value? "output").getD standard.output
      concurrency := ((g.value? "concurrency").bind (number? UInt64.size)).getD standard.concurrency
      rate := (g.value? "rate").bind number32?
      dryRun := g.has "dry-run" }

/-- A `catalog` command. -/
def readCatalog (arguments : List Text) : Except Stop Command := do
  let (g, _) ← catalogForm.read arguments
  let standard : CatalogOptions := { book := ← needed g "BOOK" }
  return .catalog { standard with
    output := (g.value? "output").getD standard.output
    layout := ((g.value? "format").bind layout?).getD standard.layout }

/-- The command whose name stands first; without one, help. -/
def readNamed : List Text → Except Stop Command
  | [] => .ok .help
  | name :: rest =>
    if name = "fetch" then readFetch rest
    else if name = "catalog" then readCatalog rest
    else if name = "help" then
      match rest with
      | [] => .ok .help
      | topic :: more =>
        if topic ∈ ["fetch".toList, "catalog".toList, "help".toList] then
          match more with
          | [] => .ok .help
          | a :: _ => .error (.usage (.unexpected a))
        else .error (.usage (.unexpected topic))
    else .error (.usage (.unexpected name))

/-- The command that arguments ask for. -/
def ofArguments (arguments : List Text) : Except UsageError Command :=
  match programForm.read arguments >>= fun r => readNamed r.2 with
  | .ok c => .ok c
  | .error .help => .ok .help
  | .error .version => .ok .version
  | .error (.usage e) => .error e

end Command

end ChapterAssembly
