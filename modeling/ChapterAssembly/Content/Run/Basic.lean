/-
**Runs.**

A run fetches one chapter.  Runs go on side by side: they share the pool of slots, the evaluator and
the journal, and each may have tasks of its own that fetch pages side by side.

Main definitions:

* `Content.Job` — what a run is asked for;
* `Content.Task`, `Content.Stage`, `Content.Run` — a task of a run, and how far a run has come;
* `Content.Machine` — all runs with what they share.
-/

import ChapterAssembly.Content.Pool
import ChapterAssembly.Content.Title
import ChapterAssembly.Content.Walk

set_option relaxedAutoImplicit false
set_option autoImplicit false

namespace ChapterAssembly

namespace Content

/-! ### Jobs -/

/-- Where the text of a chapter goes. -/
structure Delivery where
  book : Book
  chapter : Chapter
  /-- The text is to be stored. -/
  persist : Bool := true

/-- What a run is asked for: a chapter, from its first page on.  Without a delivery the run ends with
the pages. -/
structure Job where
  source : Source
  first : FetchedPage
  nextChapter : Option Text := none
  delivery? : Option Delivery := none
  /-- The token that cancels the run when it fires. -/
  token : Nat := 0

/-! ### Tasks -/

/-- How far a task has come that fetches one page. -/
inductive TaskState where
  | spawned
  /-- It has asked for a slot, and may have it already. -/
  | queued
  /-- It holds a slot, and its request is out. -/
  | fetching
  /-- It has ended, with the text of the page or the reason why there is none. -/
  | ended (outcome : Except ContentError Text)
  /-- It was told to stop, but has not yet let go of its slot or its place in the queue. -/
  | stopping
  | stopped

/-- A task that fetches one page. -/
structure Task where
  url : Text
  state : TaskState := .spawned

namespace TaskState

/-- A task in this state still runs. -/
def isLive : TaskState → Bool
  | spawned => true
  | queued => true
  | fetching => true
  | _ => false

/-- A task is told to stop; one that has ended does not notice. -/
def stop (s : TaskState) : TaskState := if s.isLive then stopping else s

end TaskState

/-! ### Stages -/

/-- What is stored of a chapter. -/
structure Saving where
  content : Text
  chapter : Chapter
  /-- The chapter differs from what the table of contents says. -/
  changed : Bool
  pages : Nat

/-- How far a run has come. -/
inductive Stage where
  | fresh
  /-- It is about to request the next page of a walk. -/
  | asking (w : Walk) (url : Text)
  /-- The request for the next page of a walk is out. -/
  | walking (w : Walk) (url : Text)
  /-- Its tasks fetch the further pages; `texts` are those collected so far. -/
  | spreading (first : Text) (texts : List (Option Text))
  /-- The texts of all pages are there. -/
  | gathered (pages : Pages)
  /-- The pages are complete. -/
  | assembled (pages : Pages)
  /-- The text is being stored. -/
  | saving (s : Saving)
  /-- The table of contents is being brought up to date. -/
  | updating (s : Saving)
  | ended (outcome : Except ContentError Text)

/-- A run: its job, its stage and its tasks. -/
structure Run where
  job : Job
  stage : Stage := .fresh
  /-- The title of the chapter, once it is known. -/
  title : Resolution := { title := [] }
  tasks : List Task := []
  /-- The tasks that have ended and were not yet looked at, in the order of their ends. -/
  finished : List Nat := []

namespace Run

/-- The run is over: it has ended, or has the pages that it was asked for. -/
def isOver (r : Run) : Bool :=
  match r.stage with
  | .ended _ => true
  | .assembled _ => r.job.delivery?.isNone
  | _ => false

/-- The run ends with an error, and its tasks are told to stop.  Both are one step, as is all that
lies between two points at which the run waits: no task goes on in between. -/
def fail (r : Run) (e : ContentError) : Run :=
  { r with
    stage := .ended (.error e)
    tasks := r.tasks.map fun t => { t with state := t.state.stop }
    finished := [] }

/-- A task of the run, in another state. -/
def setTask (r : Run) (i : Nat) (s : TaskState) : Run :=
  { r with tasks := r.tasks.modify i fun t => { t with state := s } }

/-- A task of the run has ended. -/
def endTask (r : Run) (i : Nat) (outcome : Except ContentError Text) : Run :=
  { r.setTask i (.ended outcome) with finished := r.finished ++ [i] }

end Run

/-! ### The machine -/

/-- Who makes a request: a run on its walk, or one of its tasks. -/
structure Requester where
  run : Nat
  task : Option Nat := none
deriving DecidableEq, BEq

/-- Something that a run asks of the storage. -/
inductive Call where
  | save (source : Source) (book : Book) (chapter : Chapter) (content : Text)
  | update (chapter : Chapter)

/-- All runs with what they share.  Requests and calls are kept with the latest first. -/
structure Machine where
  runs : List Run := []
  pool : Pool (Nat × Nat)
  /-- The tokens that have fired. -/
  fired : List Nat := []
  journal : Journal := {}
  requests : List (Requester × FetchTarget) := []
  calls : List (Nat × Call) := []

namespace Machine

/-- The token of a run has fired. -/
def isCancelled (m : Machine) (r : Run) : Bool := m.fired.contains r.job.token

/-- A run, replaced. -/
def setRun (m : Machine) (i : Nat) (r : Run) : Machine := { m with runs := m.runs.set i r }

/-- A run, replaced after work that writes the journal. -/
def noted (m : Machine) (i : Nat) (work : Noted Run) : Machine :=
  let (r, journal) := work m.journal
  { m with runs := m.runs.set i r, journal }

/-- A token fires. -/
def fire (m : Machine) (token : Nat) : Machine :=
  if m.fired.contains token then m else { m with fired := token :: m.fired }

/-- A token fires if `fires` says so. -/
def fireIf (m : Machine) (fires : Bool) (token : Nat) : Machine :=
  if fires then m.fire token else m

end Machine

end Content

end ChapterAssembly
