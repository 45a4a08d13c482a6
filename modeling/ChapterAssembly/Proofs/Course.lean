/-
**The course of a run.**

What comes of a job depends on nothing but the world outside: on what the requests for URLs are
answered, and on what the storage answers.  As long as a run is not cancelled, and its tasks live,
it goes along one course, whatever the other runs do, whoever holds the slots of the pool, and in
whatever order its tasks go on.

Main definitions:

* `Outside` — the world outside of a run, and `Outside.Answers` — that an action is its answer;
* `Course`, `Course.next` — the course of a run, and its next point;
* `View.Settled`, `View.Scattered` — a run stands at a point of its course, or its tasks are on
  their way to the next one.

Main results:

* `Move.of_settled`, `Move.of_scattered` — every move of a run goes along its course;
* `View.Settled.next_eq` — a run that is over stands at the end of its course.
-/

import Mathlib.Logic.Function.Iterate
import ChapterAssembly.Proofs.FanOut
import ChapterAssembly.Proofs.Persistence
import ChapterAssembly.Proofs.Run.Tasks
import ChapterAssembly.Proofs.Walk

set_option relaxedAutoImplicit false
set_option autoImplicit false

namespace ChapterAssembly

namespace Content

/-! ### The world outside -/

/-- The world outside of a run: what the request for a URL is answered, and what the storage
answers when it was asked for some things. -/
structure Outside where
  fetch : Text → Except FetchError FetchedPage
  storage : List Call → Except StorageError Unit

namespace Outside

variable (o : Outside)

/-- The pages that the first page of a job names can be fetched, if these are several. -/
def Supplies (job : Job) : Prop :=
  ∀ first, job.firstPage = .ok first → 2 ≤ first.next.length → ∀ url ∈ first.next,
    ∃ page body, o.fetch url = .ok page ∧ page.body = some body

/-- In an action of run `r` the world answers it, and lets its tasks live. -/
def Answers (r : Nat) (v : View) : Action → Prop
  | .exchange q reply _ => q = r → ∀ w url, v.run.stage = .asking w url → reply = o.fetch url
  | .reply q reply _ => q = r → ∀ w url, v.run.stage = .walking w url → reply = o.fetch url
  | .answer q i reply _ =>
    q = r → ∀ url, v.run.tasks[i]? = some ⟨url, .fetching⟩ → reply = o.fetch url
  | .die q _ _ => q ≠ r
  | .stored q result => q = r → result = o.storage v.calls
  | _ => True

/-- The text of the page at a position among those that the first page names. -/
def textOf (job : Job) (first : Extracted) (i : Nat) : Text :=
  match first.next[i]? with
  | none => []
  | some url =>
    match readReply job.source.rules false url (o.fetch url) with
    | .ok found => found.text
    | .error _ => []

end Outside

variable {o : Outside} {job : Job} {first : Extracted} {url : Text} {r i : Nat} {v v' : View}
  {a : Action}

/-- A page with a body can be read if the first page can. -/
theorem exists_readReply {page : FetchedPage} {body : Text} (hfirst : job.firstPage = .ok first)
    (hb : page.body = some body) (url : Text) :
    ∃ found, readReply job.source.rules false url (.ok page) = .ok found := by
  cases hr : readReply job.source.rules false url (.ok page) with
  | ok found => exact ⟨found, rfl⟩
  | error e =>
      -- only the content rule could be broken, but then the first page could not be read either
      exfalso
      obtain ⟨body', hb'⟩ := Job.exists_body_of_firstPage hfirst
      simp only [readReply, hb] at hr
      obtain ⟨broken, hrule, -⟩ := extractText_eq_error_iff.1 (extracted_eq_error_iff.1 hr)
      have herror : job.firstPage = .error (.contentRule broken) := by
        simp only [Job.firstPage, readReply, hb']
        exact extracted_eq_error_iff.2 (extractText_eq_error_iff.2 ⟨broken, hrule, rfl⟩)
      simp [hfirst] at herror

theorem Outside.Supplies.readReply (h : o.Supplies job) (hfirst : job.firstPage = .ok first)
    (htwo : 2 ≤ first.next.length) (hurl : first.next[i]? = some url) :
    (readReply job.source.rules false url (o.fetch url)).map (·.text) =
      .ok (o.textOf job first i) := by
  obtain ⟨page, body, hfetch, hb⟩ := h first hfirst htwo url (List.mem_of_getElem? hurl)
  obtain ⟨found, hfound⟩ := exists_readReply hfirst hb url
  simp [textOf, hurl, hfetch, hfound, Except.map]

/-! ### The course -/

/-- The title that the first page gives the chapter. -/
def Job.heading (job : Job) : Resolution :=
  match job.first.body with
  | none => { title := [] }
  | some body => job.titleOn body

/-- A run as it is seen from outside: its stage, what it has requested, and what it has asked the
storage for. -/
structure Course where
  stage : Stage := .fresh
  requests : List (Option Nat × FetchTarget) := []
  calls : List Call := []

/-- **The next point of the course of a run**, where it stays if it is over. -/
def Course.next (job : Job) (o : Outside) (c : Course) : Course :=
  match c.stage with
  | .fresh => { c with stage := (Run.begun { job } false).stage }
  | .asking w url =>
    { c with
      stage := .walking w url
      requests := c.requests ++ [(none, ⟨url, job.source.headers⟩)] }
  | .walking w url =>
    { c with stage := (Run.walked { job } false w (job.pageAt o.fetch url)).stage }
  | .spreading _ _ =>
    match job.firstPage with
    | .ok first =>
      { c with
        stage := .gathered (pagesOf first (o.textOf job first))
        requests := c.requests ++ job.requestsFor first.next }
    | .error _ => c
  | .gathered pages => { c with stage := .assembled pages }
  | .assembled pages =>
    match job.delivery? with
    | none => c
    | some d =>
      let run := Run.delivered { job, title := job.heading } false d pages
      { c with stage := run.stage, calls := c.calls ++ (Machine.callOf run).toList }
  | .saving s =>
    match o.storage c.calls with
    | .error e => { c with stage := .ended (.error (.storage e)) }
    | .ok () =>
      if s.changed then
        { c with stage := .updating s, calls := c.calls ++ [.update s.chapter] }
      else { c with stage := .ended (.ok s.content) }
  | .updating s =>
    match o.storage c.calls with
    | .error e => { c with stage := .ended (.error (.storage e)) }
    | .ok () => { c with stage := .ended (.ok s.content) }
  | .ended _ => c

/-- What becomes of the stage of a run on its walk does not depend on anything else of it. -/
theorem Run.walked_stage_eq (run run' : Run) (w : Walk) (found : Except ContentError Extracted) :
    (run.walked false w found).stage = (run'.walked false w found).stage := by
  cases found with
  | error e => rfl
  | ok page =>
      simp only [walked, Bool.false_eq_true, if_false]
      split
      · simp only [wentOn]
        split <;> rfl
      · rfl

/-- A walk does not lead to a stage in which a run waits for tasks. -/
theorem Run.walked_ne_spreading (run : Run) (w : Walk) (found : Except ContentError Extracted)
    (text : Text) (texts : List (Option Text)) :
    (run.walked false w found).stage ≠ .spreading text texts := by
  cases found with
  | error e => simp [walked]
  | ok page =>
      simp only [walked, Bool.false_eq_true, if_false]
      split
      · simp only [wentOn]
        split <;> simp
      · simp

/-- What becomes of a run when it is delivered depends on its job and its title only. -/
theorem Run.delivered_eq (run run' : Run) (hjob : run.job = run'.job)
    (htitle : run.title = run'.title) (d : Delivery) (pages : Pages) :
    (run.delivered false d pages).stage = (run'.delivered false d pages).stage ∧
      Machine.callOf (run.delivered false d pages) =
        Machine.callOf (run'.delivered false d pages) := by
  suffices hstage : (run.delivered false d pages).stage = (run'.delivered false d pages).stage by
    exact ⟨hstage, by simp only [Machine.callOf, hstage, delivered_job, hjob]⟩
  simp only [delivered, hjob, htitle]
  split
  · rfl
  · split
    · rfl
    · simp only [Bool.false_eq_true, if_false]
      split <;> rfl

/-! ### Where a run stands -/

/-- **A run stands at a point of its course**, and has no task on its way. -/
structure View.Settled (job : Job) (v : View) (c : Course) : Prop where
  stage : v.run.stage = c.stage
  gathered : ∀ text texts, c.stage ≠ .spreading text texts
  fresh : c.stage = .fresh → v.run = { job } ∧ v.requests = []
  tasks : ∀ t ∈ v.run.tasks, ∃ outcome, t.state = .ended outcome
  /-- It has made the same requests, its tasks maybe in another order. -/
  requests : v.requests.Perm c.requests
  calls : v.calls = c.calls

/-- **A run whose tasks are on their way** from a point of its course to the next one. -/
structure View.Scattered (job : Job) (o : Outside) (first : Extracted) (v : View) (c : Course) :
    Prop where
  stage : ∃ texts, v.run.stage = .spreading first.text texts ∧
    Slots job first.next (o.textOf job first) v texts
  course : ∃ texts, c.stage = .spreading first.text texts
  requests : c.requests = []
  calls : v.calls = c.calls

variable {c : Course}

/-- A run that has read its first page is settled, or its tasks have set out. -/
theorem View.settled_or_scattered (job : Job) (o : Outside) (cancelled : Bool) {calls : List Call}
    (hs : c.stage = (Run.begun { job } false).stage) (hq : c.requests = [])
    (hcalls : calls = c.calls) :
    View.Settled job ⟨Run.begun { job } false, cancelled, [], calls⟩ c ∨
      ∃ first, job.firstPage = .ok first ∧ 2 ≤ first.next.length ∧
        View.Scattered job o first ⟨Run.begun { job } false, cancelled, [], calls⟩ c := by
  by_cases hmany : ∃ first, job.firstPage = .ok first ∧ 2 ≤ first.next.length
  · obtain ⟨first, hfirst, htwo⟩ := hmany
    obtain ⟨body, hb⟩ := Job.exists_body_of_firstPage hfirst
    rw [Run.begun_of_firstPage hb hfirst] at hs ⊢
    obtain ⟨hspread, hslots⟩ :=
      Run.spread_slots { job, title := job.titleOn body } (o.textOf job first) htwo rfl cancelled
        calls
    exact .inr ⟨first, hfirst, htwo, ⟨_, hspread, hslots⟩, ⟨_, hs.trans hspread⟩, hq, hcalls⟩
  · obtain ⟨htasks, hstage⟩ := Run.begun_of_few { job } rfl false fun first hfirst => by
      by_contra hlong
      exact hmany ⟨first, hfirst, by omega⟩
    refine .inl ⟨hs.symm, ?_, ?_, ?_, ?_, hcalls⟩
    · exact fun text texts => hs ▸ hstage text texts
    · exact fun hfresh => absurd (hs.symm.trans hfresh) (Run.begun_not_fresh _ _)
    · simp [htasks]
    · simp [hq]

/-- A run that has begun and gone on to the next point of its course, with no task on its way. -/
theorem View.Settled.of_next {c c' : Course} (hi : v.Settled job c)
    (hstage : v'.run.stage = c'.stage) (hfresh : v'.run.stage ≠ .fresh)
    (hgathered : ∀ text texts, v'.run.stage ≠ .spreading text texts)
    (htasks : ∀ t ∈ v'.run.tasks, ∃ outcome, t.state = .ended outcome)
    (hrequests : ∃ more, v'.requests = v.requests ++ more ∧ c'.requests = c.requests ++ more)
    (hcalls : ∃ more, v'.calls = v.calls ++ more ∧ c'.calls = c.calls ++ more) :
    v'.Settled job c' where
  stage := hstage
  gathered := hstage ▸ hgathered
  fresh := fun h => absurd (hstage.trans h) hfresh
  tasks := htasks
  requests := by
    obtain ⟨more, hv, hc⟩ := hrequests
    rw [hv, hc]
    exact hi.requests.append_right more
  calls := by
    obtain ⟨more, hv, hc⟩ := hcalls
    rw [hv, hc, hi.calls]

/-- The title of a run that has its pages is that of its first page. -/
theorem Run.Titled.eq_heading {run : Run} {pages : Pages} (h : run.Titled)
    (hs : run.stage = .assembled pages) : run.title = run.job.heading := by
  obtain ⟨body, hb, ht⟩ : ∃ body, run.job.first.body = some body ∧
      run.title = run.job.titleOn body := by
    simpa [Run.Titled, hs] using h
  simp only [ht, Job.heading, hb]

/-- A run that turns its pages into the final text goes along its course. -/
theorem Move.settled_deliver (h : Move r v (.deliver r) v') (hi : v.Settled job c)
    (hjob : v.run.job = job) (ht : v.run.Titled) (hc : v.cancelled = false) :
    v'.Settled job (c.next job o) := by
  have hended := h.tasks_ended
  cases h with
  | other ha => exact absurd rfl ha
  | @deliver pages d hs hd =>
      have hassembled : c.stage = .assembled pages := hi.stage ▸ hs
      have hfresh : v.run.stage ≠ .fresh := by simp [hs]
      obtain ⟨hstage, hcall⟩ := Run.delivered_eq v.run { job, title := job.heading } hjob
        (hjob ▸ ht.eq_heading hs) d pages
      rw [hjob] at hd
      refine hi.of_next ?_ (Run.delivered_not_fresh _ _ _ _) ?_ (hended hfresh hi.tasks) ?_ ?_
      · simpa [Course.next, hassembled, hd, hc] using hstage
      · intro text texts hspread
        rcases Run.delivered_ends v.run v.cancelled d pages with hs | ⟨outcome, hs⟩
        · rw [hspread] at hs
          cases hs
        · rw [hspread] at hs
          cases hs
      · exact ⟨[], by simp, by simp [Course.next, hassembled, hd]⟩
      · exact ⟨_, rfl, by simp [Course.next, hassembled, hd, hc, hcall]⟩

/-- A run that is answered by the storage goes along its course. -/
theorem Move.settled_stored {result : Except StorageError Unit}
    (h : Move r v (.stored r result) v') (hi : v.Settled job c)
    (ho : result = o.storage v.calls) : v'.Settled job (c.next job o) := by
  have hstage := hi.stage
  have hended := h.tasks_ended
  rw [hi.calls] at ho
  cases h with
  | other ha => exact absurd rfl ha
  | @refuse e hs =>
      have hfresh : v.run.stage ≠ .fresh := by
        rintro hf
        simp [hf, Stage.stores] at hs
      have hnext : Course.next job o c = { c with stage := .ended (.error (.storage e)) } := by
        rw [hstage] at hs
        cases hcs : c.stage with
        | saving | updating => simp [Course.next, hcs, ← ho]
        | _ => simp [hcs, Stage.stores] at hs
      refine hi.of_next ?_ (by simp) (by simp) (hended hfresh hi.tasks) ?_ ?_
      · simp [hnext]
      · exact ⟨[], by simp, by simp [hnext]⟩
      · exact ⟨[], by simp, by simp [hnext]⟩
  | @update s hs hchanged =>
      have hnext : Course.next job o c =
          { c with stage := .updating s, calls := c.calls ++ [.update s.chapter] } := by
        simp [Course.next, hstage ▸ hs, ← ho, hchanged]
      refine hi.of_next ?_ (by simp) (by simp) (hended (by simp [hs]) hi.tasks) ?_ ?_
      · simp [hnext]
      · exact ⟨[], by simp, by simp [hnext]⟩
      · exact ⟨_, rfl, by simp [hnext]⟩
  | @finish s hs =>
      have hfresh : v.run.stage ≠ .fresh := by
        rcases hs with ⟨hs, -⟩ | hs <;> simp [hs]
      have hnext : Course.next job o c = { c with stage := .ended (.ok s.content) } := by
        rcases hs with ⟨hs, hchanged⟩ | hs
        · simp [Course.next, hstage ▸ hs, ← ho, hchanged]
        · simp [Course.next, hstage ▸ hs, ← ho]
      refine hi.of_next ?_ (by simp) (by simp) (hended hfresh hi.tasks) ?_ ?_
      · simp [hnext]
      · exact ⟨[], by simp, by simp [hnext]⟩
      · exact ⟨[], by simp, by simp [hnext]⟩

/-- **Every move of a settled run** leaves it where it stands, if it is not its own, or goes
along its course. -/
theorem Move.of_settled (h : Move r v a v') (hi : v.Settled job c) (hjob : v.run.job = job)
    (ht : v.run.Titled) (hc : v'.cancelled = false) (ho : o.Answers r v a) :
    (a.run? ≠ some r ∧ v'.Settled job c) ∨
      (∃ l, v'.Settled job ((Course.next job o)^[l + 1] c)) ∨
      (a = .begin r ∧ ∃ first, job.firstPage = .ok first ∧ 2 ≤ first.next.length ∧
        v'.Scattered job o first (c.next job o)) := by
  have hactive := h.active_of_active hc
  have htasks : v.run.stage ≠ .fresh → ∀ t ∈ v'.run.tasks, ∃ outcome, t.state = .ended outcome :=
    fun hf => h.tasks_ended hf hi.tasks
  have hended : ∀ {i : Nat} {url : Text} {s : TaskState}, v.run.tasks[i]? = some ⟨url, s⟩ →
      ∃ outcome, s = .ended outcome := fun ht => hi.tasks _ (List.mem_of_getElem? ht)
  have hstage := hi.stage
  have hmove := h
  cases h with
  | other ha => exact .inl ⟨ha, hi.stage, hi.gathered, hi.fresh, hi.tasks, hi.requests, hi.calls⟩
  | begin hs =>
      have hfresh : c.stage = .fresh := hstage ▸ hs
      obtain ⟨hrun, hq⟩ := hi.fresh hfresh
      have hrequests : c.requests = [] := by simpa [hq] using hi.requests
      have hnext : Course.next job o c = { c with stage := (Run.begun { job } false).stage } := by
        simp only [Course.next, hfresh]
      rw [hrun, hq, hactive]
      rcases View.settled_or_scattered job o false (c := c.next job o) (by simp [hnext])
        (by simp [hnext, hrequests]) (hi.calls.trans (by simp [hnext])) with hi' | hi'
      · exact .inr (.inl ⟨0, hi'⟩)
      · exact .inr (.inr ⟨rfl, hi'⟩)
  | notice hs hc' => simp [hc'] at hactive
  | @request w url fires hs =>
      have hasking : c.stage = .asking w url := hstage ▸ hs
      refine .inr (.inl ⟨0, hi.of_next ?_ (by simp) (by simp) (htasks (by simp [hs])) ?_ ?_⟩)
      · simp [Course.next, hasking]
      · exact ⟨_, rfl, by simp [Course.next, hasking, Run.target, hjob]⟩
      · exact ⟨[], by simp, by simp [Course.next, hasking]⟩
  | @exchange w url reply fires hs =>
      have hasking : c.stage = .asking w url := hstage ▸ hs
      obtain rfl : fires = false := hc
      obtain rfl := ho rfl w url hs
      -- the request and its reply are two points of the course
      refine .inr (.inl ⟨1, hi.of_next ?_ (Run.walked_not_fresh _ _ _ _)
        (Run.walked_ne_spreading _ _ _) (htasks (by simp [hs])) ?_ ?_⟩)
      · simpa [Course.next, hasking, Job.pageAt, hjob] using Run.walked_stage_eq ..
      · exact ⟨_, rfl, by simp [Course.next, hasking, Run.target, hjob]⟩
      · exact ⟨[], by simp, by simp [Course.next, hasking]⟩
  | @reply w url reply fires hs =>
      have hwalking : c.stage = .walking w url := hstage ▸ hs
      obtain rfl : fires = false := hc
      obtain rfl := ho rfl w url hs
      refine .inr (.inl ⟨0, hi.of_next ?_ (Run.walked_not_fresh _ _ _ _)
        (Run.walked_ne_spreading _ _ _) (htasks (by simp [hs])) ?_ ?_⟩)
      · simpa [Course.next, hwalking, Job.pageAt, hjob] using Run.walked_stage_eq ..
      · exact ⟨[], by simp, by simp [Course.next, hwalking]⟩
      · exact ⟨[], by simp, by simp [Course.next, hwalking]⟩
  -- a settled run has no task on its way that could go on
  | queue hi' | launch hi' | answer hi' | die hi' | drop hi' =>
      obtain ⟨outcome, ho⟩ := hended hi'
      cases ho
  | collect hs => exact absurd (hstage ▸ hs) (hi.gathered _ _)
  | @gather pages hs =>
      have hgathered : c.stage = .gathered pages := hstage ▸ hs
      refine .inr (.inl ⟨0, hi.of_next ?_ (by simp) (by simp) (htasks (by simp [hs])) ?_ ?_⟩)
      · simp [Course.next, hgathered]
      · exact ⟨[], by simp, by simp [Course.next, hgathered]⟩
      · exact ⟨[], by simp, by simp [Course.next, hgathered]⟩
  | abandon hs hc' => simp [hc'] at hactive
  | deliver => exact .inr (.inl ⟨0, hmove.settled_deliver hi hjob ht hactive⟩)
  | refuse | update | finish => exact .inr (.inl ⟨0, hmove.settled_stored hi (ho rfl)⟩)

/-- Once all tasks of a run have arrived it has its pages, and each was requested once. -/
theorem View.Scattered.next_eq (hi : v.Scattered job o first c)
    (hfirst : job.firstPage = .ok first) : c.next job o = { c with
      stage := .gathered (pagesOf first (o.textOf job first))
      requests := c.requests ++ job.requestsFor first.next } := by
  obtain ⟨texts, hcourse⟩ := hi.course
  simp only [Course.next, hcourse, hfirst]

/-- **Every move of a run whose tasks are on their way** leaves them so, unless the last of them has
arrived. -/
theorem Move.of_scattered (h : Move r v a v') (hi : v.Scattered job o first c)
    (hjob : v.run.job = job) (hfirst : job.firstPage = .ok first) (htwo : 2 ≤ first.next.length)
    (hc : v'.cancelled = false) (hs : o.Supplies job) (ho : o.Answers r v a) :
    v'.Scattered job o first c ∨ v'.Settled job (c.next job o) := by
  subst hjob
  have hnext := hi.next_eq hfirst
  obtain ⟨⟨texts, hstage, hslots⟩, hcourse, hrequests, hcalls⟩ := hi
  have hcalls' : v'.calls = v.calls := by
    cases h <;> simp_all [Stage.stores]
  obtain ⟨texts', hslots', hstage' | ⟨hall, hstage'⟩⟩ := h.slots hstage hslots hc
    (by
      rintro i url reply fires rfl ht
      obtain rfl := ho rfl url ht
      refine hs.readReply hfirst htwo ?_
      rw [← hslots.tasks, List.getElem?_map, ht]
      rfl)
    (by
      rintro i message rfl
      exact ho rfl)
  · exact .inl ⟨⟨texts', hstage', hslots'⟩, hcourse, hrequests, hcalls'.trans hcalls⟩
  · refine .inr ⟨?_, ?_, ?_, ?_, ?_, ?_⟩
    · rw [hstage', hnext]
    · simp [hnext]
    · simp [hnext]
    · intro t ht
      obtain ⟨i, hi⟩ := List.mem_iff_getElem?.1 ht
      exact ⟨_, (hslots'.filled hall hi).2.1⟩
    · rw [hnext, hrequests]
      exact hslots'.perm hall
    · rw [hnext, hcalls', hcalls]

/-- **A run that is over stands at the end of its course.** -/
theorem View.Settled.next_eq (hi : v.Settled job c) (hjob : v.run.job = job)
    (hover : v.run.isOver = true) : c.next job o = c := by
  have hstage := hi.stage
  cases hcs : c.stage <;> simp_all [Run.isOver, Course.next]

/-- A run whose tasks are on their way is not over. -/
theorem View.Scattered.not_isOver (hi : v.Scattered job o first c) : v.run.isOver = false := by
  obtain ⟨texts, hs, -⟩ := hi.stage
  simp [Run.isOver, hs]

end Content

end ChapterAssembly
