/-
**Steps of runs.**

What happens to runs is a sequence of actions, in any order that `Machine.step` allows: every action
has a condition, and a run or task that waits does nothing until its condition holds.  What a run or
task does between two points at which it waits is one action, and nothing else happens meanwhile:
runs and tasks may well be on several threads, but what two of them do between such points does not
overlap here.

Main definitions:

* `Content.Action` — what can happen;
* `Machine.step` — the machine after an action, if the action can happen.
-/

import ChapterAssembly.Content.Run.Basic

set_option relaxedAutoImplicit false
set_option autoImplicit false

namespace ChapterAssembly

namespace Content

/-! ### From the first page on -/

/-- The pages are complete. -/
def Run.assemble (r : Run) (pages : Pages) : Noted Run := do
  Noted.tell ⟨.info, "assembled chapter", [("pages", Text.ofNat pages.length)]⟩
  return { r with stage := .assembled pages }

/-- A record of the run about its source. -/
def Run.record (r : Run) (message : Text) : Noted Unit :=
  Noted.record r.job.source.key .debug message

/-- The run goes on to a link of its walk, unless the walk ends there or the run is cancelled. -/
def Run.walkOn (r : Run) (cancelled : Bool) (w : Walk) (candidate : Text) : Noted Run := do
  match ← w.goOn candidate with
  | none => r.assemble w.pages
  | some (w, url) =>
    if cancelled then return r.fail .cancelled
    else
      r.record ("fetching next page " ++ url)
      return { r with stage := .asking w url }

/-- The title of the chapter, if the run has a delivery. -/
def Run.resolveTitle (r : Run) (body : Text) : Noted Resolution := do
  match r.job.delivery? with
  | none => return { title := [] }
  | some d =>
    let base ← Noted.pageBase r.job.first.finalUrl
    Content.resolveTitle r.job.source.key r.job.source.rules ⟨body, base⟩ d.chapter.title

/-- The run reads the first page, and finds out how to come by the others. -/
def Run.begin (r : Run) (cancelled : Bool) : Noted Run := do
  match r.job.first.body with
  | none => return r.fail (.missingBody r.job.first.requestedUrl)
  | some body =>
    let title ← r.resolveTitle body
    let r := { r with title }
    match ← extract r.job.source.key r.job.source.rules true r.job.first.finalUrl body with
    | .error e => return r.fail e
    | .ok page =>
      if cancelled then return r.fail .cancelled
      else
        match page.next with
        | [] =>
          Noted.tell ⟨.debug, "single page chapter", []⟩
          r.assemble (.ofFirst page.text)
        | [candidate] =>
          let base ← Noted.pageBase r.job.first.finalUrl
          r.walkOn cancelled (.start base r.job.first.finalUrl r.job.nextChapter page.text) candidate
        | urls =>
          r.record ("fetching " ++ Text.ofNat urls.length ++ " continuation pages in parallel")
          return { r with
            stage := .spreading page.text (urls.map fun _ => none)
            tasks := urls.map fun url => { url } }

/-! ### Further pages -/

/-- The text of a page that a walk has come to; the walk goes on if the page names exactly one
further page. -/
def Run.readWalked (r : Run) (cancelled : Bool) (w : Walk) (url : Text)
    (reply : Except FetchError FetchedPage) : Noted Run := do
  match reply with
  | .error e => return r.fail (.ofFetch e)
  | .ok page =>
    match page.body with
    | none => return r.fail (.missingBody url)
    | some body =>
      match ← extract r.job.source.key r.job.source.rules true page.finalUrl body with
      | .error e => return r.fail e
      | .ok found =>
        if cancelled then return r.fail .cancelled
        else
          match found.next with
          | [candidate] => r.walkOn cancelled (w.push found.text) candidate
          | _ => r.assemble (w.push found.text).pages

/-- The outcome of a task that has a reply. -/
def readFanned (source : Source) (url : Text) (reply : Except FetchError FetchedPage) :
    Noted (Except ContentError Text) := do
  match reply with
  | .error e => return .error (.ofFetch e)
  | .ok page =>
    match page.body with
    | none => return .error (.missingBody url)
    | some body =>
      let found ← extract source.key source.rules false page.finalUrl body
      return found.map (·.text)

/-- The run looks at the task that ended first among those it has not looked at. -/
def Run.collect (r : Run) (i : Nat) (first : Text) (texts : List (Option Text)) : Run :=
  match r.tasks[i]? with
  | some ⟨_, .ended (.ok text)⟩ =>
    let texts := texts.set i (some text)
    { r with
      finished := r.finished.drop 1
      stage :=
        if texts.all Option.isSome then .gathered ⟨first :: texts.filterMap id⟩
        else .spreading first texts }
  | some ⟨_, .ended (.error e)⟩ => r.fail e
  | _ => r

/-! ### Delivery -/

/-- The chapter as it is to be stored, and whether it differs from the table of contents. -/
def Delivery.updated (d : Delivery) (title : Resolution) : Chapter × Bool :=
  if title.changes d.chapter.title d.chapter.reviewImage then
    ({ d.chapter with
        title := title.title
        reviewImage := title.image.or d.chapter.reviewImage }, true)
  else (d.chapter, false)

/-- The run is done with the text of its chapter. -/
def Run.succeed (r : Run) (persisted : Bool) (pages : Nat) (content : Text) : Noted Run := do
  Noted.tell ⟨.info, "fetched chapter content", [("pages", Text.ofNat pages),
    ("chars", Text.ofNat content.length), ("persisted", Text.ofBool persisted)]⟩
  return { r with stage := .ended (.ok content) }

/-- The run turns its pages into the final text, which has to be more than blank except in a
volume, and stores it if that is asked for. -/
def Run.deliver (r : Run) (cancelled : Bool) (d : Delivery) (pages : Pages) : Noted Run := do
  match ← normalize pages r.job.source.rules.replace (Url.pageBase r.job.first.finalUrl) with
  | .error e => return r.fail e
  | .ok content =>
    if !d.chapter.isVolume && Text.isBlankText content then
      Noted.record r.job.source.key .warn ("chapter " ++ Text.ofNat d.chapter.index.toNat ++ " (" ++
        d.chapter.url ++ ") has no content")
      return r.fail (.emptyContent d.chapter.title)
    else if cancelled then return r.fail .cancelled
    else if d.persist then
      let (chapter, changed) := d.updated r.title
      return { r with stage := .saving { content, chapter, changed, pages := pages.length } }
    else r.succeed false pages.length content

/-! ### Actions -/

/-- What can happen.  `fires` says that the token of the run fires in the midst of it. -/
inductive Action where
  /-- A run reads its first page. -/
  | begin (run : Nat)
  /-- A token fires. -/
  | fire (token : Nat)
  /-- A run that waits sees that its token has fired. -/
  | notice (run : Nat)
  /-- A run requests the next page of its walk. -/
  | request (run : Nat) (fires : Bool)
  /-- A run requests the next page of its walk, and is answered at once. -/
  | exchange (run : Nat) (reply : Except FetchError FetchedPage) (fires : Bool)
  /-- The request of a walk is answered. -/
  | reply (run : Nat) (reply : Except FetchError FetchedPage) (fires : Bool)
  /-- A task asks for a slot. -/
  | queue (run task : Nat)
  /-- A task that has a slot requests its page. -/
  | launch (run task : Nat) (fires : Bool)
  /-- The request of a task is answered. -/
  | answer (run task : Nat) (reply : Except FetchError FetchedPage) (fires : Bool)
  /-- A task dies. -/
  | die (run task : Nat) (message : Text)
  /-- A task that was told to stop lets go of its slot or its place in the queue. -/
  | drop (run task : Nat)
  /-- A run looks at a task that has ended. -/
  | collect (run : Nat)
  /-- A run has looked at all its tasks. -/
  | gather (run : Nat)
  /-- A run turns its pages into the final text. -/
  | deliver (run : Nat)
  /-- The storage answers. -/
  | stored (run : Nat) (result : Except StorageError Unit)

namespace Machine

/-- A task of a run. -/
def task? (m : Machine) (r i : Nat) : Option (Run × Task) :=
  (m.runs[r]?).bind fun run => (run.tasks[i]?).map (run, ·)

/-- What a run asks of the storage next, as its stage says. -/
def callOf (run : Run) : Option Call :=
  match run.stage, run.job.delivery? with
  | .saving s, some d => some (.save run.job.source d.book s.chapter s.content)
  | .updating s, _ => some (.update s.chapter)
  | _, _ => none

/-- A run that has come to a stage in which the storage is asked for something asks for it. -/
def call (m : Machine) (r : Nat) : Machine :=
  match (m.runs[r]?).bind callOf with
  | some c => { m with calls := (r, c) :: m.calls }
  | none => m

/-- The machine after an action, if the action can happen. -/
def step (m : Machine) : Action → Option Machine
  | .begin r =>
    match m.runs[r]? with
    | some run =>
      match run.stage with
      | .fresh => some (m.noted r (run.begin (m.isCancelled run)))
      | _ => none
    | none => none
  | .fire token => some (m.fire token)
  | .notice r =>
    match m.runs[r]? with
    | some run =>
      if m.isCancelled run then
        match run.stage with
        | .asking _ _ => some (m.setRun r (run.fail .cancelled))
        | .walking _ _ => some (m.setRun r (run.fail .cancelled))
        | .spreading _ _ => some (m.setRun r (run.fail .cancelled))
        | _ => none
      else none
    | none => none
  | .request r fires =>
    match m.runs[r]? with
    | some run =>
      match run.stage with
      | .asking w url =>
        if m.isCancelled run then none
        else
          let m := m.setRun r { run with stage := .walking w url }
          let target := { url, headers := run.job.source.headers }
          let requests := (⟨r, none⟩, target) :: m.requests
          some ({ m with requests }.fireIf fires run.job.token)
      | _ => none
    | none => none
  | .exchange r reply fires =>
    match m.runs[r]? with
    | some run =>
      match run.stage with
      | .asking w url =>
        if m.isCancelled run then none
        else
          let target := { url, headers := run.job.source.headers }
          let requests := (⟨r, none⟩, target) :: m.requests
          let m := { m with requests }.fireIf fires run.job.token
          some (m.noted r (run.readWalked (m.isCancelled run) w url reply))
      | _ => none
    | none => none
  | .reply r reply fires =>
    match m.runs[r]? with
    | some run =>
      match run.stage with
      | .walking w url =>
        if m.isCancelled run then none
        else
          let m := m.fireIf fires run.job.token
          some (m.noted r (run.readWalked (m.isCancelled run) w url reply))
      | _ => none
    | none => none
  | .queue r i =>
    match m.task? r i with
    | some (run, task) =>
      match task.state with
      | .spawned =>
        let m := m.setRun r (run.setTask i .queued)
        some { m with pool := m.pool.enter (r, i) }
      | _ => none
    | none => none
  | .launch r i fires =>
    match m.task? r i with
    | some (run, task) =>
      match task.state with
      | .queued =>
        if m.pool.holds (r, i) then
          let m := m.setRun r (run.setTask i .fetching)
          let target := { url := task.url, headers := run.job.source.headers }
          let requests := (⟨r, some i⟩, target) :: m.requests
          some ({ m with requests }.fireIf fires run.job.token)
        else none
      | _ => none
    | none => none
  | .answer r i reply fires =>
    match m.task? r i with
    | some (run, task) =>
      match task.state with
      | .fetching =>
        let m := m.fireIf fires run.job.token
        -- the outcome is noted before the slot goes to the next in the queue
        let m := m.noted r do
          return run.endTask i (← readFanned run.job.source task.url reply)
        some { m with pool := m.pool.leave (r, i) }
      | _ => none
    | none => none
  | .die r i message =>
    match m.task? r i with
    | some (run, task) =>
      match task.state with
      | .fetching =>
        let m := m.setRun r (run.endTask i (.error (.ofDeath i message)))
        some { m with pool := m.pool.leave (r, i) }
      | _ => none
    | none => none
  | .drop r i =>
    match m.task? r i with
    | some (run, task) =>
      match task.state with
      | .stopping =>
        let m := m.setRun r (run.setTask i .stopped)
        some { m with pool := m.pool.leave (r, i) }
      | _ => none
    | none => none
  | .collect r =>
    match m.runs[r]? with
    | some run =>
      match run.stage, run.finished with
      | .spreading first texts, i :: _ =>
        if m.isCancelled run then none else some (m.setRun r (run.collect i first texts))
      | _, _ => none
    | none => none
  | .gather r =>
    match m.runs[r]? with
    | some run =>
      match run.stage with
      | .gathered pages =>
        if m.isCancelled run then some (m.setRun r (run.fail .cancelled))
        else some (m.noted r (run.assemble pages))
      | _ => none
    | none => none
  | .deliver r =>
    match m.runs[r]? with
    | some run =>
      match run.stage, run.job.delivery? with
      | .assembled pages, some d =>
        some ((m.noted r (run.deliver (m.isCancelled run) d pages)).call r)
      | _, _ => none
    | none => none
  | .stored r result =>
    match m.runs[r]? with
    | some run =>
      match run.stage, result with
      | .saving _, .error e => some (m.setRun r (run.fail (.storage e)))
      | .updating _, .error e => some (m.setRun r (run.fail (.storage e)))
      | .saving s, .ok () =>
        if s.changed then some ((m.setRun r { run with stage := .updating s }).call r)
        else some (m.noted r (run.succeed true s.pages s.content))
      | .updating s, .ok () => some (m.noted r (run.succeed true s.pages s.content))
      | _, _ => none
    | none => none

end Machine

end Content

end ChapterAssembly
