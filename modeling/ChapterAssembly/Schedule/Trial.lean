/-
**Trials on a virtual clock.**

A trial lets runs work on scripted pages.  Its clock stands still while anything can happen, and then
goes on to the next moment at which a request is answered or a token fires.  While it stands still,
the runs first go on as far as they can, each in turn, and then their tasks, until nothing moves.

Main definitions:

* `Schedule.Plan` — when the token of a call fires;
* `Schedule.Trial` — a machine with a clock, and what was seen of its requests;
* `Trial.call` — runs started together and followed to their ends.
-/

import ChapterAssembly.Content.Run.Step
import ChapterAssembly.Schedule.Web

set_option relaxedAutoImplicit false
set_option autoImplicit false

namespace ChapterAssembly

namespace Schedule

open Content

/-- When the token of a call fires. -/
inductive Plan where
  | never
  | before
  /-- So many milliseconds into the call. -/
  | at (time : Nat)
  /-- As the request with this number starts. -/
  | onRequest (n : Nat)
  /-- As the successful request with this number ends. -/
  | onComplete (n : Nat)
deriving Repr, DecidableEq

/-- What the storage answers: refusals of texts and of changes to the table of contents. -/
structure StoragePlan where
  refuseSave : Option Text := none
  refuseUpdate : Option Text := none
deriving Repr

/-- What was seen of the requests of a call, with the latest first. -/
structure Trace where
  requests : List FetchTarget := []
  completed : List Text := []
  maxInFlight : Nat := 0
  /-- What the storage took. -/
  stored : List Call := []

/-- A machine with a clock. -/
structure Trial where
  machine : Machine
  web : Web
  storage : StoragePlan := {}
  now : Nat := 0
  /-- The requests that wait for their time. -/
  due : List (Nat × Requester) := []
  /-- When the token of the call fires, and which one it is. -/
  plan : Plan := .never
  token : Nat := 0
  fireAt : Option Nat := none
  trace : Trace := {}
  /-- The tasks move; otherwise the runs. -/
  inTasks : Bool := false
  /-- Nothing has moved since the others had their turn. -/
  quiet : Bool := false
  /-- The token fires when the tasks have moved. -/
  firesNow : Bool := false

namespace Trial

/-! ### What can happen -/

/-- The request of a run or task has its answer. -/
def isAnswered (t : Trial) (who : Requester) : Bool := !(t.due.any fun d => d.2 == who)

/-- The token fires with the next request. -/
def firesOnRequest (t : Trial) : Bool :=
  t.plan == .onRequest (t.trace.requests.length + 1)

/-- The token fires with the next successful reply. -/
def firesOnReply (t : Trial) (reply : Except FetchError FetchedPage) : Bool :=
  reply.toBool && t.plan == .onComplete (t.trace.completed.length + 1)

/-- What the storage answers to a run. -/
def storageReply (t : Trial) (run : Run) : Except StorageError Unit :=
  match run.stage with
  | .saving _ =>
    match t.storage.refuseSave with
    | some m => .error (.notFound m)
    | none => .ok ()
  | _ =>
    match t.storage.refuseUpdate with
    | some m => .error (.noHost m)
    | none => .ok ()

/-- What the reply to a walk is.  A page on which its reader would die brings nothing. -/
def walkReply (t : Trial) (url : Text) : Except FetchError FetchedPage :=
  match t.web.outcome url with
  | .reply r => r
  | .death m => .error (.other m)

/-- What a run does next. -/
def runMove? (t : Trial) (r : Nat) (run : Run) : Option Action :=
  let cancelled := t.machine.isCancelled run
  match run.stage with
  | .fresh => some (.begin r)
  | .asking _ url =>
    if cancelled then some (.notice r)
    else if t.web.delay url = 0 then
      let reply := t.walkReply url
      some (.exchange r reply (t.firesOnRequest || t.firesOnReply reply))
    else some (.request r t.firesOnRequest)
  | .walking _ url =>
    if cancelled then some (.notice r)
    else if t.isAnswered ⟨r, none⟩ then
      let reply := t.walkReply url
      some (.reply r reply (t.firesOnReply reply))
    else none
  | .spreading _ _ =>
    if cancelled then some (.notice r)
    else if run.finished.isEmpty then none
    else some (.collect r)
  | .gathered _ => some (.gather r)
  | .assembled _ => if run.job.delivery?.isSome then some (.deliver r) else none
  | .saving _ => some (.stored r (t.storageReply run))
  | .updating _ => some (.stored r (t.storageReply run))
  | .ended _ => none

/-- What a task does next.  A request that is out ends at once when the token has fired, though the
run may not have seen that yet. -/
def taskMove? (t : Trial) (r i : Nat) (run : Run) (task : Task) : Option Action :=
  match task.state with
  | .spawned => some (.queue r i)
  | .queued =>
    if t.machine.pool.holds (r, i) then some (.launch r i t.firesOnRequest) else none
  | .fetching =>
    if t.isAnswered ⟨r, some i⟩ then
      match t.web.outcome task.url with
      | .reply reply => some (.answer r i reply (t.firesOnReply reply))
      | .death m => some (.die r i m)
    else if t.machine.isCancelled run then some (.answer r i (.error .cancelled) false)
    else none
  | .stopping => some (.drop r i)
  | _ => none

/-- The first thing that happens next among the runs, or among their tasks. -/
def move? (t : Trial) : Option Action :=
  if t.inTasks then
    t.machine.runs.zipIdx.findSome? fun (run, r) =>
      run.tasks.zipIdx.findSome? fun (task, i) => t.taskMove? r i run task
  else t.machine.runs.zipIdx.findSome? fun (run, r) => t.runMove? r run

/-! ### What is seen of it -/

/-- The number of requests for known URLs that are out. -/
def inFlight (t : Trial) : Nat :=
  let known := fun url => (t.web.find? url).isSome
  let ofRun := fun (run : Run) =>
    (match run.stage with
      | .walking _ url => if known url then 1 else 0
      | _ => 0) +
    (run.tasks.filter fun task => match task.state with
      | .fetching => known task.url
      | _ => false).length
  t.machine.runs.foldl (fun n run => n + ofRun run) 0

/-- A request has started while `others` were out. -/
def requested (t : Trial) (others : Nat) (who : Requester) : Trial :=
  match t.machine.requests with
  | [] => t
  | (_, target) :: _ =>
    let delay := t.web.delay target.url
    let together := if (t.web.find? target.url).isSome then others + 1 else 0
    let trace := { t.trace with
      requests := target :: t.trace.requests
      maxInFlight := max t.trace.maxInFlight together }
    { t with trace, due := if delay = 0 then t.due else t.due ++ [(t.now + delay, who)] }

/-- A request has been answered. -/
def replied (t : Trial) (reply : Except FetchError FetchedPage) : Trial :=
  match reply with
  | .ok page =>
    { t with trace := { t.trace with completed := page.requestedUrl :: t.trace.completed } }
  | .error _ => t

/-- The storage has answered the latest call of a run. -/
def answered (t : Trial) (call : Option Call) (result : Except StorageError Unit) : Trial :=
  match call, result with
  | some c, .ok () => { t with trace := { t.trace with stored := c :: t.trace.stored } }
  | _, _ => t

/-- The trial after an action. -/
def perform (t : Trial) (a : Action) : Trial :=
  let call := match a with
    | .stored r _ => (t.machine.runs[r]?).bind Machine.callOf
    | _ => none
  let others := t.inFlight
  let t := { t with machine := (t.machine.step a).getD t.machine, quiet := false }
  match a with
  | .request r _ => t.requested others ⟨r, none⟩
  | .exchange r reply _ => (t.requested others ⟨r, none⟩).replied reply
  | .launch r i _ => t.requested others ⟨r, some i⟩
  | .reply _ reply _ => t.replied reply
  | .answer _ _ reply _ => t.replied reply
  | .stored _ result => t.answered call result
  | _ => t

/-! ### The clock -/

/-- A request still has someone who waits for it. -/
def isWanted (t : Trial) (who : Requester) : Bool :=
  match t.machine.runs[who.run]?, who.task with
  | some run, none =>
    match run.stage with
    | .walking _ _ => true
    | _ => false
  | some run, some i =>
    match run.tasks[i]? with
    | some ⟨_, .fetching⟩ => true
    | _ => false
  | none, _ => false

/-- The next moment at which something happens. -/
def nextTime? (t : Trial) : Option Nat :=
  let times := (t.due.filter fun d => t.isWanted d.2).map (·.1) ++ t.fireAt.toList
  times.min?

/-- The clock goes on. -/
def advance (t : Trial) (time : Nat) : Trial :=
  { t with
    now := time
    due := t.due.filter fun d => time < d.1
    firesNow := t.fireAt == some time
    fireAt := if t.fireAt == some time then none else t.fireAt
    inTasks := false
    quiet := false }

/-- All runs are over. -/
def isOver (t : Trial) : Bool := t.machine.runs.all Run.isOver

/-- Follows a trial to its end, in at most `fuel` steps. -/
def follow : Nat → Trial → Trial
  | 0, t => t
  | fuel + 1, t =>
    match t.move? with
    | some a => follow fuel (t.perform a)
    | none =>
      if t.firesNow && t.inTasks then
        follow fuel { t with
          machine := t.machine.fire t.token
          firesNow := false
          inTasks := false
          quiet := false }
      -- nobody moves on this side: the other one has its turn before the clock goes on
      else if !t.quiet then follow fuel { t with inTasks := !t.inTasks, quiet := true }
      else if t.isOver then t
      else
        match t.nextTime? with
        | some time => follow fuel (t.advance time)
        | none => t

/-- A bound for the steps of a job: a walk sees each scripted page once, and every task is named by
a link on the first page. -/
def stepBound (w : Web) (j : Job) : Nat :=
  64 + 16 * (w.length + 4) + 24 * ((j.first.body.map List.length).getD 0 + 8)

/-- Starts runs together, which share a token, and follows them to their ends. -/
def call (t : Trial) (jobs : List Job) (plan : Plan) : Trial :=
  let token := t.machine.runs.length
  let runs := jobs.map fun job => { job := { job with token } : Run }
  let machine := { t.machine with runs := t.machine.runs ++ runs }
  let machine := if plan = .before then machine.fire token else machine
  follow (jobs.foldl (fun n job => n + stepBound t.web job) 64)
    { t with
      machine
      plan
      token
      fireAt := match plan with
        | .at time => some (t.now + time)
        | _ => none
      trace := {}
      due := []
      inTasks := false
      quiet := false
      firesNow := false }

end Trial

end Schedule

end ChapterAssembly
