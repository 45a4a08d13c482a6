/-
**How runs come to their ends.**

A run is *open* until it has passed its last check: nothing is stored of its chapter before that,
and the run ends only by an error.  After that check only the storage can make it fail.

Main definitions:

* `Stage.isOpen` — the run has not passed its last check;
* `Action.answer?` — what the storage answers a run;
* `ContentError.comesEarly` — the errors that an open run can meet;
* `Job.Refuses`, `View.Mishap` — a page fails by itself, not by a cancellation;
* `TaskMove` — how a task goes on;
* `Run.TasksFailBy`, `Run.TasksComeEarly` — what the tasks of a run that have failed met.

Main results:

* `Run.walked_stage`, `Run.begun_stage`, `Run.delivered_stage` — where the steps of a run lead;
* `Move.tasks` — what a move does to the tasks of a run;
* `Move.of_open` — **an open run stays open, fails early, or passes its last check**;
* `Move.of_stores` — a run that waits for the storage does what it is answered;
* `Move.of_ended` — a run that has ended stays as it is.
-/

import ChapterAssembly.Proofs.Run.View

set_option relaxedAutoImplicit false
set_option autoImplicit false

namespace ChapterAssembly

/-- An error that comes up before anything is stored.  A cancelled request is never one of its own:
it counts as a cancelled run. -/
def ContentError.comesEarly : ContentError → Bool
  | .fetch .cancelled => false
  | .storage _ => false
  | _ => true

namespace Content

/-- A run in this stage has not passed its last check. -/
def Stage.isOpen : Stage → Bool
  | .saving _ => false
  | .updating _ => false
  | .ended _ => false
  | _ => true

/-- A run is open, or waits for the storage, or has ended. -/
theorem Stage.isOpen_or_stores_or_ended (stage : Stage) :
    stage.isOpen = true ∨ stage.stores = true ∨ ∃ outcome, stage = .ended outcome := by
  cases stage <;> simp [isOpen, stores]

theorem stores_of_isOpen {stage : Stage} (h : stage.isOpen = true) : stage.stores = false := by
  cases stage <;> simp_all [Stage.isOpen, Stage.stores]

/-! ### Errors of pages -/

theorem comesEarly_ofFetch (e : FetchError) : (ContentError.ofFetch e).comesEarly = true := by
  cases e <;> rfl

theorem comesEarly_of_extracted {rules : RuleSet} {wantNext : Bool} {address body : Text}
    {e : ContentError} (h : extracted rules wantNext address body = .error e) :
    e.comesEarly = true := by
  obtain ⟨broken, -, rfl⟩ := extractText_eq_error_iff.1 (extracted_eq_error_iff.1 h)
  rfl

theorem comesEarly_of_readReply {rules : RuleSet} {wantNext : Bool} {url : Text}
    {reply : Except FetchError FetchedPage} {e : ContentError}
    (h : readReply rules wantNext url reply = .error e) : e.comesEarly = true := by
  cases reply with
  | error f =>
      cases h
      exact comesEarly_ofFetch f
  | ok page =>
      simp only [readReply] at h
      split at h
      · cases h
        rfl
      · exact comesEarly_of_extracted h

theorem comesEarly_of_finalText {pages : Pages} {replace : Option Text} {base : Url}
    {e : ContentError} (h : finalText pages replace base = .error e) : e.comesEarly = true := by
  obtain ⟨rule, broken, -, -, rfl⟩ := finalText_eq_error_iff.1 h
  rfl

/-! ### Where the steps of a run lead -/

namespace Run

variable (r : Run)

@[simp] theorem fail_stage (e : ContentError) : (r.fail e).stage = .ended (.error e) := rfl

@[simp] theorem setTask_stage (i : Nat) (s : TaskState) : (r.setTask i s).stage = r.stage := rfl

@[simp] theorem endTask_stage (i : Nat) (t : Except ContentError Text) :
    (r.endTask i t).stage = r.stage := rfl

@[simp] theorem isOpen_wentOn (w : Walk) (candidate : Text) :
    (r.wentOn w candidate).stage.isOpen = true := by
  unfold wentOn; split <;> rfl

@[simp] theorem isOpen_spread (text : Text) (next : List Text) :
    (r.spread text next).stage.isOpen = true := by
  unfold spread
  split
  · rfl
  · simp
  · rfl

/-- A walk that has come to a page goes on, unless the page or a cancellation ends the run. -/
theorem walked_stage (cancelled : Bool) (w : Walk) (found : Except ContentError Extracted) :
    (cancelled = false ∧ (r.walked cancelled w found).stage.isOpen = true) ∨
      ∃ e, (r.walked cancelled w found).stage = .ended (.error e) ∧
        (found = .error e ∨ cancelled = true ∧ e = .cancelled) := by
  cases found with
  | error e => exact .inr ⟨e, rfl, .inl rfl⟩
  | ok page =>
      cases cancelled with
      | true => exact .inr ⟨.cancelled, rfl, .inr ⟨rfl, rfl⟩⟩
      | false =>
          refine .inl ⟨rfl, ?_⟩
          simp only [walked, Bool.false_eq_true, if_false]
          split
          · exact isOpen_wentOn ..
          · rfl

/-- A run that has read its first page goes on, unless the page or a cancellation ends it. -/
theorem begun_stage (cancelled : Bool) :
    (cancelled = false ∧ (r.begun cancelled).stage.isOpen = true) ∨
      ∃ e, (r.begun cancelled).stage = .ended (.error e) ∧
        (r.job.firstPage = .error e ∨ cancelled = true ∧ e = .cancelled) := by
  cases hb : r.job.first.body with
  | none =>
      refine .inr ⟨.missingBody r.job.first.requestedUrl, ?_, .inl ?_⟩
      · simp [begun, hb]
      · simp [Job.firstPage, readReply, hb]
  | some body =>
      have hf : r.job.firstPage = extracted r.job.source.rules true r.job.first.finalUrl body := by
        simp only [Job.firstPage, readReply, hb]
      simp only [begun, hb, hf]
      cases extracted r.job.source.rules true r.job.first.finalUrl body with
      | error e => exact .inr ⟨e, rfl, .inl rfl⟩
      | ok page =>
          cases cancelled with
          | true => exact .inr ⟨.cancelled, rfl, .inr ⟨rfl, rfl⟩⟩
          | false => exact .inl ⟨rfl, isOpen_spread ..⟩

/-- A run that looks at a task goes on, unless the task has failed. -/
theorem collect_stage {first : Text} {texts : List (Option Text)}
    (hs : r.stage = .spreading first texts) (i : Nat) :
    (r.collect i first texts).stage.isOpen = true ∨
      ∃ url e, (r.collect i first texts).stage = .ended (.error e) ∧
        r.tasks[i]? = some ⟨url, .ended (.error e)⟩ := by
  unfold collect
  split
  · refine .inl ?_
    simp only
    split <;> rfl
  · next url e h => exact .inr ⟨url, e, rfl, h⟩
  · exact .inl (by rw [hs]; rfl)

/-- A run that has made a text of its pages passes its last check, unless it has no text, only
a blank one, or is cancelled. -/
theorem delivered_stage (cancelled : Bool) (d : Delivery) (pages : Pages) :
    (∃ e, (r.delivered cancelled d pages).stage = .ended (.error e) ∧
      (finalText pages r.job.source.rules.replace (Url.pageBase r.job.first.finalUrl) = .error e ∨
       (e = .emptyContent d.chapter.title ∧ d.chapter.isVolume = false ∧
        ∃ content, finalText pages r.job.source.rules.replace
          (Url.pageBase r.job.first.finalUrl) = .ok content ∧ Text.isBlankText content = true) ∨
       (cancelled = true ∧ e = .cancelled))) ∨
    (cancelled = false ∧ ∃ content,
      finalText pages r.job.source.rules.replace (Url.pageBase r.job.first.finalUrl) =
        .ok content ∧
      (d.chapter.isVolume = false → Text.isBlankText content = false) ∧
      (r.delivered cancelled d pages).stage =
        if d.persist then
          .saving ⟨content, (d.updated r.title).1, (d.updated r.title).2, pages.length⟩
        else .ended (.ok content)) := by
  unfold delivered
  cases finalText pages r.job.source.rules.replace (Url.pageBase r.job.first.finalUrl) with
  | error e => exact .inl ⟨e, rfl, .inl rfl⟩
  | ok content =>
      cases hb : !d.chapter.isVolume && Text.isBlankText content with
      | true =>
          simp only [Bool.and_eq_true, Bool.not_eq_true'] at hb
          exact .inl ⟨.emptyContent d.chapter.title, by simp [hb],
            .inr (.inl ⟨rfl, hb.1, content, rfl, hb.2⟩)⟩
      | false =>
          cases cancelled with
          | true => exact .inl ⟨.cancelled, by simp [hb], .inr (.inr ⟨rfl, rfl⟩)⟩
          | false =>
              refine .inr ⟨rfl, content, rfl, fun hv => by simpa [hv] using hb, ?_⟩
              simp only [hb]
              cases d.persist <;> rfl

/-- A run that has passed its last check, or has failed at it, waits for the storage or has
ended. -/
theorem delivered_ends (cancelled : Bool) (d : Delivery) (pages : Pages) :
    (r.delivered cancelled d pages).stage.stores = true ∨
      ∃ outcome, (r.delivered cancelled d pages).stage = .ended outcome := by
  rcases r.delivered_stage cancelled d pages with ⟨e, he, -⟩ | ⟨-, content, -, -, hs⟩
  · exact .inr ⟨_, he⟩
  · cases hp : d.persist with
    | true => exact .inl (by rw [hs, hp]; rfl)
    | false => exact .inr ⟨.ok content, by rw [hs, hp]; rfl⟩

end Run

/-! ### Runs that have begun -/

namespace Run

variable (r : Run)

theorem wentOn_not_fresh (w : Walk) (candidate : Text) : (r.wentOn w candidate).stage ≠ .fresh := by
  unfold wentOn; split <;> simp

theorem spread_not_fresh (text : Text) (next : List Text) :
    (r.spread text next).stage ≠ .fresh := by
  unfold spread
  split
  · simp
  · exact wentOn_not_fresh _ _ _
  · simp

theorem walked_not_fresh (cancelled : Bool) (w : Walk) (found : Except ContentError Extracted) :
    (r.walked cancelled w found).stage ≠ .fresh := by
  unfold walked
  split
  · simp
  · split
    · simp
    · split
      · exact wentOn_not_fresh _ _ _
      · simp

theorem begun_not_fresh (cancelled : Bool) : (r.begun cancelled).stage ≠ .fresh := by
  unfold begun
  split
  · simp
  · simp only
    split
    · simp
    · split
      · simp
      · exact spread_not_fresh _ _ _

theorem collect_not_fresh {first : Text} {texts : List (Option Text)}
    (hs : r.stage = .spreading first texts) (i : Nat) :
    (r.collect i first texts).stage ≠ .fresh := by
  unfold collect
  split
  · simp only
    split <;> simp
  · simp
  · simp [hs]

theorem delivered_not_fresh (cancelled : Bool) (d : Delivery) (pages : Pages) :
    (r.delivered cancelled d pages).stage ≠ .fresh := by
  unfold delivered
  split
  · simp
  · split
    · simp
    · split
      · simp
      · split <;> simp

end Run

/-- A run that has begun is never fresh again. -/
theorem Move.of_fresh {r : Nat} {v v' : View} {a : Action} (h : Move r v a v')
    (hs : v'.run.stage = .fresh) : v.run.stage = .fresh ∧ a ≠ .begin r := by
  cases h with
  | other ha =>
      refine ⟨hs, ?_⟩
      rintro rfl
      exact ha rfl
  | begin => exact absurd hs (Run.begun_not_fresh _ _)
  | exchange => exact absurd hs (Run.walked_not_fresh _ _ _ _)
  | reply => exact absurd hs (Run.walked_not_fresh _ _ _ _)
  | collect hs' => exact absurd hs (Run.collect_not_fresh _ hs' _)
  | deliver => exact absurd hs (Run.delivered_not_fresh _ _ _ _)
  | queue | launch | answer | die | drop => exact ⟨hs, by simp⟩
  | _ => cases hs

/-! ### Mishaps -/

/-- The reply to a request of a job is a failure by itself: no page came though nobody cancelled
the request, or the page has no body, or the content rule fails on it. -/
def Job.Refuses (job : Job) : Except FetchError FetchedPage → Prop
  | .error e => e ≠ .cancelled
  | .ok page =>
    ∀ body ∈ page.body, ∃ e,
      extractText job.source.rules ⟨body, Url.pageBase page.finalUrl⟩ = .error e

/-- In an action of a run something of its own goes wrong: a page fails or the task that fetches
it dies, the replace rule fails, or the text of the chapter is blank. -/
def View.Mishap (v : View) : Action → Prop
  | .begin _ => v.run.job.Refuses (.ok v.run.job.first)
  | .exchange _ reply _ => v.run.job.Refuses reply
  | .reply _ reply _ => v.run.job.Refuses reply
  | .answer _ _ reply _ => v.run.job.Refuses reply
  | .die _ _ _ => True
  | .deliver _ =>
    ∃ pages d, v.run.stage = .assembled pages ∧ v.run.job.delivery? = some d ∧
      ∀ content, finalText pages v.run.job.source.rules.replace
          (Url.pageBase v.run.job.first.finalUrl) = .ok content →
        d.chapter.isVolume = false ∧ Text.isBlankText content = true
  | _ => False

theorem refuses_of_readReply {job : Job} {wantNext : Bool} {url : Text}
    {reply : Except FetchError FetchedPage} {e : ContentError}
    (h : readReply job.source.rules wantNext url reply = .error e) :
    e = .cancelled ∨ job.Refuses reply := by
  cases reply with
  | error f =>
      by_cases hf : f = .cancelled
      · subst hf
        exact .inl (by cases h; rfl)
      · exact .inr hf
  | ok page =>
      refine .inr fun body hb => ⟨e, ?_⟩
      simp only [readReply, Option.mem_def.1 hb] at h
      exact extracted_eq_error_iff.1 h

theorem not_refuses_of_readReply {job : Job} {wantNext : Bool} {url : Text}
    {reply : Except FetchError FetchedPage} {page : Extracted}
    (h : readReply job.source.rules wantNext url reply = .ok page) : ¬ job.Refuses reply := by
  intro hr
  cases reply with
  | error f => cases h
  | ok found =>
      cases hb : found.body with
      | none => simp [readReply, hb] at h
      | some body =>
          obtain ⟨e, he⟩ := hr body hb
          have he := (extracted_eq_error_iff.2 he : extracted _ wantNext _ _ = _)
          simp [readReply, hb, he] at h

/-! ### Tasks -/

/-- A task that is told to stop. -/
def Task.stop (t : Task) : Task := { t with state := t.state.stop }

@[simp] theorem TaskState.stop_eq_ended_iff {s : TaskState}
    {outcome : Except ContentError Text} : s.stop = .ended outcome ↔ s = .ended outcome := by
  cases s <;> simp [TaskState.stop, TaskState.isLive]

/-- **How a task goes on**: task `i` of a run of the job, which fetches `url`, by an action. -/
inductive TaskMove (r : Nat) (job : Job) (i : Nat) (url : Text) :
    Action → TaskState → TaskState → Prop
  | queue : TaskMove r job i url (.queue r i) .spawned .queued
  | launch (fires : Bool) : TaskMove r job i url (.launch r i fires) .queued .fetching
  | answer (reply : Except FetchError FetchedPage) (fires : Bool) :
      TaskMove r job i url (.answer r i reply fires) .fetching
        (.ended ((readReply job.source.rules false url reply).map (·.text)))
  | die (message : Text) :
      TaskMove r job i url (.die r i message) .fetching (.ended (.error (.ofDeath i message)))
  | drop : TaskMove r job i url (.drop r i) .stopping .stopped

namespace Run

variable (r : Run)

@[simp] theorem wentOn_tasks (w : Walk) (candidate : Text) :
    (r.wentOn w candidate).tasks = r.tasks := by
  unfold wentOn; split <;> rfl

theorem spread_tasks (text : Text) (next : List Text) :
    (r.spread text next).tasks = r.tasks ∨
      ∃ urls : List Text, (r.spread text next).tasks = urls.map fun url => { url } := by
  unfold spread
  split
  · exact .inl rfl
  · exact .inl (by simp)
  · exact .inr ⟨_, rfl⟩

theorem walked_tasks (cancelled : Bool) (w : Walk) (found : Except ContentError Extracted) :
    (r.walked cancelled w found).tasks = r.tasks ∨
      (r.walked cancelled w found).tasks = r.tasks.map Task.stop := by
  unfold walked
  split
  · exact .inr rfl
  · split
    · exact .inr rfl
    · split
      · exact .inl (by simp)
      · exact .inl rfl

theorem begun_tasks (cancelled : Bool) :
    (r.begun cancelled).tasks = r.tasks ∨ (r.begun cancelled).tasks = r.tasks.map Task.stop ∨
      ∃ urls : List Text, (r.begun cancelled).tasks = urls.map fun url => { url } := by
  unfold begun
  split
  · exact .inr (.inl rfl)
  · simp only
    split
    · exact .inr (.inl rfl)
    · split
      · exact .inr (.inl rfl)
      · exact (spread_tasks ..).imp_right .inr

theorem collect_tasks (i : Nat) (first : Text) (texts : List (Option Text)) :
    (r.collect i first texts).tasks = r.tasks ∨
      (r.collect i first texts).tasks = r.tasks.map Task.stop := by
  unfold collect
  split
  · exact .inl rfl
  · exact .inr rfl
  · exact .inl rfl

theorem delivered_tasks (cancelled : Bool) (d : Delivery) (pages : Pages) :
    (r.delivered cancelled d pages).tasks = r.tasks ∨
      (r.delivered cancelled d pages).tasks = r.tasks.map Task.stop := by
  unfold delivered
  split
  · exact .inr rfl
  · split
    · exact .inr rfl
    · split
      · exact .inr rfl
      · split <;> exact .inl rfl

end Run

variable {r : Nat} {v v' : View} {a : Action}

/-- **What a move does to the tasks of a run**: nothing, or it tells all of them to stop, or makes
them, or one of them goes on. -/
theorem Move.tasks (h : Move r v a v') :
    v'.run.tasks = v.run.tasks ∨ v'.run.tasks = v.run.tasks.map Task.stop ∨
      (a = .begin r ∧ v.run.stage = .fresh ∧
        ∃ urls : List Text, v'.run.tasks = urls.map fun url => { url }) ∨
      ∃ i url s s', v.run.tasks[i]? = some ⟨url, s⟩ ∧ TaskMove r v.run.job i url a s s' ∧
        v'.run.tasks = (v.run.setTask i s').tasks ∧ v'.run.stage = v.run.stage := by
  cases h with
  | begin hs =>
      rcases Run.begun_tasks v.run v.cancelled with h | h | h
      · exact .inl h
      · exact .inr (.inl h)
      · exact .inr (.inr (.inl ⟨rfl, hs, h⟩))
  | notice => exact .inr (.inl rfl)
  | exchange => exact (Run.walked_tasks ..).imp_right .inl
  | reply => exact (Run.walked_tasks ..).imp_right .inl
  | queue ht => exact .inr (.inr (.inr ⟨_, _, _, _, ht, .queue, rfl, rfl⟩))
  | launch ht => exact .inr (.inr (.inr ⟨_, _, _, _, ht, .launch _, rfl, rfl⟩))
  | answer ht => exact .inr (.inr (.inr ⟨_, _, _, _, ht, .answer _ _, rfl, rfl⟩))
  | die ht => exact .inr (.inr (.inr ⟨_, _, _, _, ht, .die _, rfl, rfl⟩))
  | drop ht => exact .inr (.inr (.inr ⟨_, _, _, _, ht, .drop, rfl, rfl⟩))
  | collect => exact (Run.collect_tasks ..).imp_right .inl
  | abandon => exact .inr (.inl rfl)
  | deliver => exact (Run.delivered_tasks ..).imp_right .inl
  | refuse => exact .inr (.inl rfl)
  | _ => exact .inl rfl

/-- The errors of the tasks of a run that have failed are of some kind. -/
def Run.TasksFailBy (r : Run) (P : ContentError → Prop) : Prop :=
  ∀ t ∈ r.tasks, ∀ e, t.state = .ended (.error e) → P e

theorem Run.tasksFailBy_fresh (job : Job) (P : ContentError → Prop) :
    Run.TasksFailBy { job } P := by
  intro t ht
  cases ht

theorem Run.mem_setTask {run : Run} {i : Nat} {s : TaskState} {t : Task}
    (h : t ∈ (run.setTask i s).tasks) : t ∈ run.tasks ∨ t.state = s := by
  obtain ⟨j, hj⟩ := List.mem_iff_getElem?.1 h
  simp only [setTask, List.getElem?_modify] at hj
  obtain ⟨u, hu, rfl⟩ := Option.map_eq_some_iff.1 hj
  by_cases hij : i = j
  · exact .inr (by simp [hij])
  · exact .inl (by simpa [hij] using List.mem_of_getElem? hu)

/-- The errors of tasks stay of some kind if the task that ends in a move fails by such a one. -/
theorem Move.tasksFailBy {P : ContentError → Prop} (h : Move r v a v') (ht : v.run.TasksFailBy P)
    (hnew : ∀ i url s e, TaskMove r v.run.job i url a s (.ended (.error e)) → P e) :
    v'.run.TasksFailBy P := by
  intro t hmem e he
  -- only a task that goes on can meet a new error: one that is told to stop keeps what it has met
  rcases h.tasks with hs | hs | ⟨-, -, urls, hs⟩ | ⟨i, url, s, s', -, hm, hs, -⟩
  · exact ht t (hs ▸ hmem) e he
  · obtain ⟨u, hu, rfl⟩ := List.mem_map.1 (hs ▸ hmem)
    exact ht u hu e (TaskState.stop_eq_ended_iff.1 he)
  · obtain ⟨url, -, rfl⟩ := List.mem_map.1 (hs ▸ hmem)
    cases he
  · rcases Run.mem_setTask (hs ▸ hmem) with hmem | rfl
    · exact ht t hmem e he
    · exact hnew i url s e (he ▸ hm)

/-- A task fails by the error of its reply, or because it dies. -/
theorem TaskMove.of_error {job : Job} {i : Nat} {url : Text} {s : TaskState} {e : ContentError}
    (h : TaskMove r job i url a s (.ended (.error e))) :
    (∃ reply fires, a = .answer r i reply fires ∧
      readReply job.source.rules false url reply = .error e) ∨
    ∃ message, a = .die r i message ∧ e = .ofDeath i message := by
  generalize hs : TaskState.ended (.error e) = s' at h
  cases h with
  | answer reply fires =>
      refine .inl ⟨reply, fires, rfl, ?_⟩
      cases hr : readReply job.source.rules false url reply <;> simp_all [Except.map]
  | die message =>
      obtain rfl : e = .ofDeath i message := by simpa using hs
      exact .inr ⟨message, rfl, rfl⟩
  | _ => cases hs

/-- The tasks of a run that have failed met errors that come early. -/
def Run.TasksComeEarly (r : Run) : Prop := r.TasksFailBy fun e => e.comesEarly = true

/-- The errors of tasks come early, whatever happens to a run. -/
theorem Move.tasksComeEarly (h : Move r v a v') (ht : v.run.TasksComeEarly) :
    v'.run.TasksComeEarly := by
  refine h.tasksFailBy ht fun i url s e hm => ?_
  rcases hm.of_error with ⟨reply, -, -, hr⟩ | ⟨message, -, rfl⟩
  · exact comesEarly_of_readReply hr
  · rfl

/-- A run has no tasks before it has begun. -/
theorem Move.no_tasks (h : Move r v a v') (hf : v.run.stage = .fresh → v.run.tasks = [])
    (hs : v'.run.stage = .fresh) : v'.run.tasks = [] := by
  obtain ⟨hs, ha⟩ := h.of_fresh hs
  rcases h.tasks with ht | ht | ⟨ha', -⟩ | ⟨i, url, s, s', ht, -⟩
  · rw [ht, hf hs]
  · rw [ht, hf hs]
    rfl
  · exact absurd ha' ha
  · simp [hf hs] at ht

/-- A task that has ended stays so. -/
theorem Move.task_ended (h : Move r v a v') (hf : v.run.stage ≠ .fresh) {i : Nat} {url : Text}
    {outcome : Except ContentError Text} (ht : v.run.tasks[i]? = some ⟨url, .ended outcome⟩) :
    v'.run.tasks[i]? = some ⟨url, .ended outcome⟩ := by
  rcases h.tasks with hs | hs | ⟨-, hs, -⟩ | ⟨j, url', s, s', ht', hm, hs, -⟩
  · rw [hs, ht]
  · rw [hs, List.getElem?_map, ht]
    rfl
  · exact absurd hs hf
  · have hij : j ≠ i := by
      rintro rfl
      obtain ⟨rfl, rfl⟩ : url' = url ∧ s = .ended outcome := by simpa [ht'] using ht
      cases hm
    rw [hs, Run.setTask, List.getElem?_modify_ne _ _ hij, ht]

/-! ### Open runs -/

/-- A stage that a page leads to is open, or the run has failed early. -/
theorem View.of_page {stage : Stage} {cancelled wantNext : Bool} {url : Text}
    {reply : Except FetchError FetchedPage}
    (h : (cancelled = false ∧ stage.isOpen = true) ∨ ∃ e, stage = .ended (.error e) ∧
      (readReply v.run.job.source.rules wantNext url reply = .error e ∨
        cancelled = true ∧ e = .cancelled))
    (hmishap : v.run.job.Refuses reply → v.Mishap a) :
    stage.isOpen = true ∨ ∃ e, stage = .ended (.error e) ∧ e.comesEarly = true ∧
      (e = .cancelled ∨ v.Mishap a) := by
  rcases h with ⟨-, h⟩ | ⟨e, h, hf | ⟨-, rfl⟩⟩
  · exact .inl h
  · exact .inr ⟨e, h, comesEarly_of_readReply hf, (refuses_of_readReply hf).imp_right hmishap⟩
  · exact .inr ⟨.cancelled, h, rfl, .inl rfl⟩

/-- A run that makes a text of its pages fails early, or passes its last check and asks for what is
due. -/
theorem View.of_delivery {pages : Pages} {d : Delivery} (hs : v.run.stage = .assembled pages)
    (hd : v.run.job.delivery? = some d) :
    (∃ e, (v.run.delivered v.cancelled d pages).stage = .ended (.error e) ∧
      e.comesEarly = true ∧ Machine.callOf (v.run.delivered v.cancelled d pages) = none ∧
      (e = .cancelled ∨ v.Mishap (.deliver r))) ∨
    (v.cancelled = false ∧ ∃ content,
      (d.chapter.isVolume = false → Text.isBlankText content = false) ∧
      if d.persist then
        (v.run.delivered v.cancelled d pages).stage =
          .saving ⟨content, (d.updated v.run.title).1, (d.updated v.run.title).2,
            pages.length⟩ ∧
        Machine.callOf (v.run.delivered v.cancelled d pages) =
          some (.save v.run.job.source d.book (d.updated v.run.title).1 content)
      else (v.run.delivered v.cancelled d pages).stage = .ended (.ok content) ∧
        Machine.callOf (v.run.delivered v.cancelled d pages) = none) := by
  rcases Run.delivered_stage v.run v.cancelled d pages with
    ⟨e, h, hf⟩ | ⟨hc, content, -, hblank, h⟩
  · refine .inl ⟨e, h, ?_, by simp [Machine.callOf, h], ?_⟩
    · rcases hf with hf | ⟨rfl, -⟩ | ⟨-, rfl⟩
      · exact comesEarly_of_finalText hf
      · rfl
      · rfl
    · rcases hf with hf | ⟨-, hv, content, hcontent, hblank⟩ | ⟨-, rfl⟩
      · exact .inr ⟨pages, d, hs, hd, fun c hc => by simp [hf] at hc⟩
      · refine .inr ⟨pages, d, hs, hd, fun c hc => ⟨hv, ?_⟩⟩
        obtain rfl : content = c := by simpa [hcontent] using hc
        exact hblank
      · exact .inl rfl
  · refine .inr ⟨hc, content, hblank, ?_⟩
    by_cases hp : d.persist = true
    · rw [if_pos hp] at h ⊢
      exact ⟨h, by simp [Machine.callOf, h, hd]⟩
    · rw [if_neg hp] at h ⊢
      exact ⟨h, by simp [Machine.callOf, h]⟩

/-- **An open run stays open, fails early, or passes its last check.**  If it fails, then because
it is cancelled, by a mishap, or by that of a task it looks at. -/
theorem Move.of_open (h : Move r v a v') (ho : v.run.stage.isOpen = true)
    (ht : v.run.TasksComeEarly) :
    (v'.run.stage.isOpen = true ∧ v'.calls = v.calls) ∨
    (∃ e, v'.run.stage = .ended (.error e) ∧ e.comesEarly = true ∧ v'.calls = v.calls ∧
      (e = .cancelled ∨ (a.run? = some r ∧ v.Mishap a) ∨
        ∃ t ∈ v.run.tasks, t.state = .ended (.error e))) ∨
    (∃ pages d content, a = .deliver r ∧ v'.cancelled = false ∧
      v.run.stage = .assembled pages ∧ v.run.job.delivery? = some d ∧
      (d.chapter.isVolume = false → Text.isBlankText content = false) ∧
      (if d.persist then
        v'.run.stage = .saving ⟨content, (d.updated v.run.title).1, (d.updated v.run.title).2,
          pages.length⟩ ∧
        v'.calls = v.calls ++ [.save v.run.job.source d.book (d.updated v.run.title).1 content]
      else v'.run.stage = .ended (.ok content) ∧ v'.calls = v.calls)) := by
  cases h with
  | other => exact .inl ⟨ho, rfl⟩
  | begin hs =>
      have hpage := Run.begun_stage v.run v.cancelled
      rcases View.of_page (a := .begin r) hpage id with h | ⟨e, h, he, hf⟩
      · exact .inl ⟨h, rfl⟩
      · exact .inr (.inl ⟨e, h, he, rfl, hf.imp_right fun hf => .inl ⟨rfl, hf⟩⟩)
  | notice => exact .inr (.inl ⟨_, rfl, rfl, rfl, .inl rfl⟩)
  | request => exact .inl ⟨rfl, rfl⟩
  | @exchange w url reply fires hs hc =>
      have hpage :=
        Run.walked_stage v.run fires w (readReply v.run.job.source.rules true url reply)
      rcases View.of_page (a := .exchange r reply fires) hpage id with h | ⟨e, h, he, hf⟩
      · exact .inl ⟨h, rfl⟩
      · exact .inr (.inl ⟨e, h, he, rfl, hf.imp_right fun hf => .inl ⟨rfl, hf⟩⟩)
  | @reply w url reply fires hs hc =>
      have hpage :=
        Run.walked_stage v.run fires w (readReply v.run.job.source.rules true url reply)
      rcases View.of_page (a := .reply r reply fires) hpage id with h | ⟨e, h, he, hf⟩
      · exact .inl ⟨h, rfl⟩
      · exact .inr (.inl ⟨e, h, he, rfl, hf.imp_right fun hf => .inl ⟨rfl, hf⟩⟩)
  | queue => exact .inl ⟨ho, rfl⟩
  | launch => exact .inl ⟨ho, rfl⟩
  | answer => exact .inl ⟨ho, rfl⟩
  | die => exact .inl ⟨ho, rfl⟩
  | drop => exact .inl ⟨ho, rfl⟩
  | @collect first texts i rest hs hf hc =>
      rcases Run.collect_stage v.run hs i with h | ⟨url, e, h, htask⟩
      · exact .inl ⟨h, rfl⟩
      · -- the error is that of a task, of which we only know that it comes early
        have hmem := List.mem_of_getElem? htask
        exact .inr (.inl ⟨e, h, ht _ hmem e rfl, rfl, .inr (.inr ⟨_, hmem, rfl⟩)⟩)
  | gather => exact .inl ⟨rfl, rfl⟩
  | abandon => exact .inr (.inl ⟨_, rfl, rfl, rfl, .inl rfl⟩)
  | @deliver pages d hs hd =>
      rcases View.of_delivery (r := r) hs hd with
        ⟨e, h, he, hcalls, hf⟩ | ⟨hc, content, hblank, h⟩
      · exact .inr (.inl ⟨e, h, he, by simp [hcalls], hf.imp_right fun hf => .inl ⟨rfl, hf⟩⟩)
      · refine .inr (.inr ⟨pages, d, content, rfl, hc, hs, hd, hblank, ?_⟩)
        by_cases hp : d.persist = true
        · rw [if_pos hp] at h ⊢
          exact ⟨h.1, by simp [h.2]⟩
        · rw [if_neg hp] at h ⊢
          exact ⟨h.1, by simp [h.2]⟩
  | @refuse e hs => cases hr : v.run.stage <;> simp_all [Stage.isOpen, Stage.stores]
  | update hs => simp [hs, Stage.isOpen] at ho
  | finish hs => rcases hs with ⟨hs, -⟩ | hs <;> simp [hs, Stage.isOpen] at ho

/-! ### Runs that store -/

/-- The answer of the storage to run `r` that an action is, if it is one. -/
def Action.answer? (r : Nat) : Action → Option (Except StorageError Unit)
  | .stored i result => if i = r then some result else none
  | _ => none

/-- The storage answers a run only when it was asked. -/
theorem Move.answer?_eq_none (h : Move r v a v') (hs : v.run.stage.stores = false) :
    a.answer? r = none := by
  cases h with
  | other ha =>
      cases a with
      | stored i result =>
          have hi : i ≠ r := by simpa [Action.run?] using ha
          simp [Action.answer?, hi]
      | _ => rfl
  | refuse hs' => simp [hs'] at hs
  | update hs' => simp [hs', Stage.stores] at hs
  | finish hs' => rcases hs' with ⟨hs', -⟩ | hs' <;> simp [hs', Stage.stores] at hs
  | _ => rfl

/-- While it waits for the storage, a run stays as it is until it is answered. -/
theorem Move.of_stores (h : Move r v a v') (hs : v.run.stage.stores = true) :
    (v'.run.stage = v.run.stage ∧ v'.calls = v.calls ∧ a.answer? r = none) ∨
    (∃ e, v'.run.stage = .ended (.error (.storage e)) ∧ v'.calls = v.calls ∧
      a.answer? r = some (.error e)) ∨
    (a.answer? r = some (.ok ()) ∧
      ((∃ s, v.run.stage = .saving s ∧ s.changed = true ∧ v'.run.stage = .updating s ∧
        v'.calls = v.calls ++ [.update s.chapter]) ∨
       (∃ s, ((v.run.stage = .saving s ∧ s.changed = false) ∨ v.run.stage = .updating s) ∧
        v'.run.stage = .ended (.ok s.content) ∧ v'.calls = v.calls))) := by
  cases h with
  | other ha =>
      refine .inl ⟨rfl, rfl, ?_⟩
      cases a with
      | stored i result =>
          have hi : i ≠ r := by simpa [Action.run?] using ha
          simp [Action.answer?, hi]
      | _ => rfl
  | queue => exact .inl ⟨rfl, rfl, rfl⟩
  | launch => exact .inl ⟨rfl, rfl, rfl⟩
  | answer => exact .inl ⟨rfl, rfl, rfl⟩
  | die => exact .inl ⟨rfl, rfl, rfl⟩
  | drop => exact .inl ⟨rfl, rfl, rfl⟩
  | @refuse e => exact .inr (.inl ⟨e, rfl, rfl, by simp [Action.answer?]⟩)
  | @update s hs' hc =>
      exact .inr (.inr ⟨by simp [Action.answer?], .inl ⟨s, hs', hc, rfl, rfl⟩⟩)
  | @finish s hs' =>
      exact .inr (.inr ⟨by simp [Action.answer?], .inr ⟨s, hs', rfl, rfl⟩⟩)
  | begin hs' => simp [hs', Stage.stores] at hs
  | notice hs' => revert hs hs'; cases v.run.stage <;> simp [Stage.stores, Stage.waits]
  | request hs' => simp [hs', Stage.stores] at hs
  | exchange hs' => simp [hs', Stage.stores] at hs
  | reply hs' => simp [hs', Stage.stores] at hs
  | collect hs' => simp [hs', Stage.stores] at hs
  | gather hs' => simp [hs', Stage.stores] at hs
  | abandon hs' => simp [hs', Stage.stores] at hs
  | deliver hs' => simp [hs', Stage.stores] at hs

/-- A run that has ended stays as it is. -/
theorem Move.of_ended {outcome : Except ContentError Text} (h : Move r v a v')
    (hs : v.run.stage = .ended outcome) :
    v'.run.stage = .ended outcome ∧ v'.calls = v.calls := by
  cases h <;> simp_all [Stage.waits, Stage.stores]

end Content

end ChapterAssembly
