/-
**A task that fails takes its run with it.**

A chapter whose pages are fetched side by side needs every one of them.  As soon as one task has
failed, in whatever way, the run can only fail: with the error of the task that failed first, or as
cancelled if its token fires before the run has looked at that task.  All other tasks are then told
to stop, and none of them requests its page any more.

Main definitions:

* `TaskFailure` — how a task fails, and with what error;
* `FirstFailure` — the task that fails first, in the order in which the tasks end;
* `View.Unhurt` — how far a run has come none of whose tasks has failed;
* `View.Awaits` — it has yet to look at the first task that has failed;
* `FailsWhole` — what is promised of a run one of whose tasks fails.

Main results:

* `Move.of_awaits` — a run awaits the first failure until it meets it;
* `Machine.Path.idle` — a run that has done with its tasks requests nothing any more;
* `Machine.Path.fails_whole` — **a task that fails takes its run with it**.
-/

import ChapterAssembly.Proofs.Cancellation
import ChapterAssembly.Proofs.FanOut
import ChapterAssembly.Proofs.Run.Gathering

set_option relaxedAutoImplicit false
set_option autoImplicit false

namespace ChapterAssembly

namespace Content

/-! ### Tasks that fail -/

/-- **How the task at a position fails**, and with what error. -/
inductive TaskFailure (job : Job) (r i : Nat) (url : Text) : Action → ContentError → Prop
  /-- Its page does not come, -/
  | refused {e : FetchError} {fires : Bool} (he : e ≠ .cancelled) :
      TaskFailure job r i url (.answer r i (.error e) fires) (.fetch e)
  /-- or its request is cancelled, -/
  | cancelled {fires : Bool} :
      TaskFailure job r i url (.answer r i (.error .cancelled) fires) .cancelled
  /-- or the page has no body, -/
  | missing {page : FetchedPage} {fires : Bool} (hb : page.body = none) :
      TaskFailure job r i url (.answer r i (.ok page) fires) (.missingBody url)
  /-- or the content rule is broken, -/
  | unreadable {page : FetchedPage} {body : Text} {broken : RuleError} {fires : Bool}
      (hb : page.body = some body) (hrule : Rule.parse job.source.rules.content = .error broken) :
      TaskFailure job r i url (.answer r i (.ok page) fires) (.contentRule broken)
  /-- or the task dies. -/
  | death {message : Text} :
      TaskFailure job r i url (.die r i message) (.ofDeath i message)

variable {job : Job} {first : Extracted} {next : List Text} {r i : Nat} {url : Text} {a : Action}
  {e : ContentError} {v v' : View} {texts : List (Option Text)}

theorem taskFailure_of_readReply {reply : Except FetchError FetchedPage} {fires : Bool}
    (h : readReply job.source.rules false url reply = .error e) :
    TaskFailure job r i url (.answer r i reply fires) e := by
  cases reply with
  | error f =>
      by_cases hf : f = .cancelled
      · subst hf
        obtain rfl : .cancelled = e := by simpa [readReply, ContentError.ofFetch] using h
        exact .cancelled
      · obtain rfl : .fetch f = e := by
          cases f <;> simp_all [readReply, ContentError.ofFetch]
        exact .refused hf
  | ok page =>
      cases hb : page.body with
      | none =>
          obtain rfl : .missingBody url = e := by simpa [readReply, hb] using h
          exact .missing hb
      | some body =>
          simp only [readReply, hb] at h
          obtain ⟨broken, hrule, rfl⟩ := extractText_eq_error_iff.1 (extracted_eq_error_iff.1 h)
          exact .unreadable hb hrule

/-- **A task fails by what it makes of its reply, or because it dies.** -/
theorem taskFailure_iff : TaskFailure job r i url a e ↔
    (∃ reply fires, a = .answer r i reply fires ∧
      readReply job.source.rules false url reply = .error e) ∨
    ∃ message, a = .die r i message ∧ e = .ofDeath i message := by
  constructor
  · intro h
    cases h with
    | @refused f fires he =>
        refine .inl ⟨_, _, rfl, ?_⟩
        cases f <;> simp_all [readReply, ContentError.ofFetch]
    | cancelled => exact .inl ⟨_, _, rfl, rfl⟩
    | missing hb => exact .inl ⟨_, _, rfl, by simp [readReply, hb]⟩
    | @unreadable page body broken fires hb hrule =>
        refine .inl ⟨_, _, rfl, ?_⟩
        simp only [readReply, hb]
        exact extracted_eq_error_iff.2 (extractText_eq_error_iff.2 ⟨broken, hrule, rfl⟩)
    | death => exact .inr ⟨_, rfl, rfl⟩
  · rintro (⟨reply, fires, rfl, hr⟩ | ⟨message, rfl, rfl⟩)
    · exact taskFailure_of_readReply hr
    · exact .death

/-- Whether a reply is a failure does not depend on the page that it is for. -/
theorem exists_error_of_readReply {reply : Except FetchError FetchedPage}
    (h : readReply job.source.rules false url reply = .error e) (url' : Text) :
    ∃ e', readReply job.source.rules false url' reply = .error e' := by
  cases reply with
  | error f => exact ⟨_, rfl⟩
  | ok page =>
      cases hb : page.body with
      | none => exact ⟨_, by simp only [readReply, hb]; rfl⟩
      | some body =>
          simp only [readReply, hb] at h ⊢
          exact ⟨e, h⟩

/-- A task that fails has fetched until now, ends with an error, and is the last of those that the
run has to look at. -/
theorem TaskFailure.exists_fetching (h : TaskFailure v.run.job r i url a e)
    (hmove : Move r v a v') : ∃ url' e', v.run.tasks[i]? = some ⟨url', .fetching⟩ ∧
      TaskFailure v.run.job r i url' a e' ∧ v'.run = v.run.endTask i (.error e') := by
  rcases taskFailure_iff.1 h with ⟨reply, fires, rfl, hr⟩ | ⟨message, rfl, rfl⟩
  · cases hmove with
    | other ha => exact absurd rfl ha
    | @answer _ url' _ _ ht =>
        obtain ⟨e', hr'⟩ := exists_error_of_readReply hr url'
        exact ⟨url', e', ht, taskFailure_of_readReply hr', by rw [hr']; rfl⟩
  · cases hmove with
    | other ha => exact absurd rfl ha
    | die ht => exact ⟨_, _, ht, .death, rfl⟩

/-- A task of run `r` fails in an action. -/
def FailsTask (job : Job) (r : Nat) (a : Action) : Prop :=
  ∃ i url e, TaskFailure job r i url a e

/-- A task that ends with an error fails. -/
theorem TaskMove.failsTask {s : TaskState} (h : TaskMove r job i url a s (.ended (.error e))) :
    FailsTask job r a := ⟨i, url, e, taskFailure_iff.2 h.of_error⟩

/-- **The task that fails first**, in the order in which the tasks end, with its error. -/
def FirstFailure (job : Job) (next : List Text) (r : Nat) (acts : List Action) (i : Nat)
    (e : ContentError) : Prop :=
  ∃ before a after url, acts = before ++ a :: after ∧ next[i]? = some url ∧
    TaskFailure job r i url a e ∧ ∀ b ∈ before, ¬ FailsTask job r b

open scoped Classical in
theorem exists_first_failsTask {acts : List Action} (h : ∃ a ∈ acts, FailsTask job r a) :
    ∃ before a after, acts = before ++ a :: after ∧ FailsTask job r a ∧
      ∀ b ∈ before, ¬ FailsTask job r b := by
  have hfind : (acts.find? fun a => decide (FailsTask job r a)).isSome = true := by
    simpa [List.find?_isSome] using h
  obtain ⟨a, ha⟩ := Option.isSome_iff_exists.1 hfind
  obtain ⟨hfails, before, after, heq, hbefore⟩ := List.find?_eq_some_iff_append.1 ha
  exact ⟨before, a, after, heq, by simpa using hfails, by simpa using hbefore⟩

/-! ### Runs that have not failed -/

/-- **How far a run has come none of whose tasks has failed.** -/
inductive View.Unhurt (first : Extracted) (v : View) : Prop
  | fresh (hs : v.run.stage = .fresh) (ht : v.run.tasks = []) (hf : v.run.finished = [])
      (hcalls : v.calls = [])
  | gathering {texts : List (Option Text)} (hg : Gathering first v texts)
  | idle (hi : v.run.Idle)

theorem Move.unhurt (h : Move r v a v') (hi : v.Unhurt first)
    (hfirst : v.run.job.firstPage = .ok first) (htwo : 2 ≤ first.next.length) :
    v'.Unhurt first := by
  cases hi with
  | fresh hs ht hf hcalls =>
      cases h with
      | other => exact .fresh hs ht hf hcalls
      | begin =>
          obtain ⟨body, hb⟩ := Job.exists_body_of_firstPage hfirst
          cases hc : v.cancelled with
          | true =>
              rw [Run.begun_of_cancelled hb hfirst]
              exact .idle (Run.idle_fail _)
          | false =>
              rw [Run.begun_of_firstPage hb hfirst]
              have hg := Gathering.of_spread first
                { v.run with title := v.run.job.titleOn body } htwo hf false v.requests
              rw [← hcalls] at hg
              exact .gathering hg
      | notice hs' => simp [hs, Stage.waits] at hs'
      | refuse hs' => simp [hs, Stage.stores] at hs'
      | queue ht' | launch ht' | answer ht' | die ht' | drop ht' => simp [ht] at ht'
      | finish hs' => simp [hs] at hs'
      | request hs' | exchange hs' | reply hs' | collect hs' => simp [hs] at hs'
      | gather hs' | abandon hs' | deliver hs' | update hs' => simp [hs] at hs'
  | gathering hg =>
      cases h.of_gathering hg with
      | waits hg' | filled _ _ hg' => exact .gathering hg'
      | complete _ hi => exact .idle hi
      | failed _ _ _ hv | noticed _ hv => exact hv ▸ .idle v.run.idle_fail
  | idle hi => exact .idle (h.of_idle hi).1

/-! ### The first failure -/

/-- **A run that has yet to look at the task that failed first**: before that it looks at tasks that
have found texts. -/
structure View.Awaits (first : Extracted) (i : Nat) (e : ContentError) (before : List Nat)
    (v : View) : Prop where
  gathering : ∃ texts, Gathering first v texts
  failed : ∃ url, v.run.tasks[i]? = some ⟨url, .ended (.error e)⟩
  order : ∃ after, v.run.finished = before ++ i :: after
  found : ∀ j ∈ before, ∃ url found, v.run.tasks[j]? = some ⟨url, .ended (.ok found)⟩

variable {before : List Nat}

/-- Whichever task a waiting run looks at first, it has not failed if the run still awaits the
first failure, unless it is that one. -/
theorem View.Awaits.head {j : Nat} {rest : List Nat} {outcome : Except ContentError Text}
    (ha : v.Awaits first i e before) (hf : v.run.finished = j :: rest)
    (ht : v.run.tasks[j]? = some ⟨url, .ended outcome⟩) :
    (before = [] ∧ j = i ∧ outcome = .error e) ∨
      ∃ before', before = j :: before' ∧ ∃ found, outcome = .ok found := by
  obtain ⟨after, horder⟩ := ha.order
  rw [hf] at horder
  cases before with
  | nil =>
      obtain ⟨rfl, -⟩ : j = i ∧ rest = after := by simpa using horder
      obtain ⟨url', hi⟩ := ha.failed
      obtain ⟨-, rfl⟩ : url = url' ∧ outcome = .error e := by simpa [ht] using hi
      exact .inl ⟨rfl, rfl, rfl⟩
  | cons k before =>
      obtain ⟨rfl, -⟩ : j = k ∧ rest = before ++ i :: after := by simpa using horder
      obtain ⟨url', found, hk⟩ := ha.found j (by simp)
      obtain ⟨-, rfl⟩ : url = url' ∧ outcome = .ok found := by simpa [ht] using hk
      exact .inr ⟨before, rfl, found, rfl⟩

/-- **A run awaits the first failure until it meets it**, or sees that its token has fired. -/
theorem Move.of_awaits (h : Move r v a v') (ha : v.Awaits first i e before) :
    (∃ before', v'.Awaits first i e before') ∨
      (v.cancelled = false ∧ v' = { v with run := v.run.fail e }) ∨
      (v.cancelled = true ∧ v' = { v with run := v.run.fail .cancelled }) := by
  obtain ⟨texts, hg⟩ := ha.gathering
  obtain ⟨url, hi⟩ := ha.failed
  obtain ⟨after, horder⟩ := ha.order
  have hfresh : v.run.stage ≠ .fresh := by simp [hg.stage]
  cases h.of_gathering hg with
  | waits hg' hf =>
      obtain ⟨more, hmore⟩ := hf
      refine .inl ⟨before, ⟨_, hg'⟩, ⟨url, h.task_ended hfresh hi⟩, ⟨after ++ more, ?_⟩, ?_⟩
      · simp [← hmore, horder]
      · intro j hj
        obtain ⟨url', found, hj⟩ := ha.found j hj
        exact ⟨url', found, h.task_ended hfresh hj⟩
  | filled ht hf hg' =>
      obtain ⟨-, -, ho⟩ | ⟨before, rfl, -⟩ := ha.head hf ht
      · cases ho
      · refine .inl ⟨before, ⟨_, hg'⟩, ⟨url, h.task_ended hfresh hi⟩, ⟨after, ?_⟩, ?_⟩
        · simpa [hf] using horder
        · intro j hj
          obtain ⟨url', found, hj⟩ := ha.found j (by simp [hj])
          exact ⟨url', found, h.task_ended hfresh hj⟩
  | complete hall =>
      obtain ⟨found, hfound⟩ := hall _ (List.mem_of_getElem? hi)
      cases hfound
  | failed hc hf ht hv =>
      obtain ⟨-, -, ho⟩ | ⟨-, -, found, ho⟩ := ha.head hf ht
      · obtain rfl := Except.error.inj ho
        exact .inr (.inl ⟨hc, hv⟩)
      · cases ho
  | noticed hc hv => exact .inr (.inr ⟨hc, hv⟩)

/-- The task that fails first is the one that the run awaits from then on. -/
theorem View.Unhurt.awaits (hi : v.Unhurt first) (hnone : v.run.TasksFailBy fun _ => False)
    (hmove : Move r v a v') (ht : v.run.tasks[i]? = some ⟨url, .fetching⟩)
    (hrun : v'.run = v.run.endTask i (.error e)) :
    first.next[i]? = some url ∧ v'.Awaits first i e v.run.finished := by
  cases hi with
  | fresh _ hnil => simp [hnil] at ht
  | idle hi => cases hi.tasks _ (List.mem_of_getElem? ht)
  | gathering hg =>
      have hfresh : v.run.stage ≠ .fresh := by simp [hg.stage]
      have hfailed : v'.run.tasks[i]? = some ⟨url, .ended (.error e)⟩ := by
        simp [hrun, Run.endTask, Run.setTask, ht]
      refine ⟨by simp [← hg.tasks, ht], ?_, ⟨url, hfailed⟩, ⟨[], by simp [hrun, Run.endTask]⟩, ?_⟩
      · cases hmove.of_gathering hg with
        | waits hg' | filled _ _ hg' => exact ⟨_, hg'⟩
        | complete hall =>
            obtain ⟨found, hfound⟩ := hall _ (List.mem_of_getElem? ht)
            cases hfound
        | failed _ _ _ hv | noticed _ hv =>
            rw [hv] at hrun
            have hstage := congrArg Run.stage hrun
            simp [hg.stage] at hstage
      · intro j hj
        obtain ⟨url', outcome, hj⟩ := hg.finished j hj
        cases outcome with
        | error f => exact (hnone _ (List.mem_of_getElem? hj) f rfl).elim
        | ok found => exact ⟨url', found, hmove.task_ended hfresh hj⟩

/-! ### Every run -/

namespace Machine

variable {m n k : Machine} {acts : List Action}

/-- A run whose token has fired in time is cancelled. -/
theorem CancelledInTime.cancelled (hc : m.CancelledInTime r acts) (hp : m.Path acts n)
    (hv : n.view? r = some v) : v.cancelled = true := by
  obtain ⟨k, a, k', run, ht, hs, hr, -, hcancelled⟩ := hc
  obtain ⟨before, j, after, -, -, hs', hn⟩ := ht.split hp
  obtain rfl := Option.some.inj (hs.symm.trans hs')
  obtain ⟨w, hw, rfl⟩ : ∃ w, k.view? r = some w ∧ w.run = run := by simp [view?, hr]
  obtain ⟨w', hw', hmove⟩ := move_of_step hs hw
  have hcancelled' : w'.cancelled = true := by
    rw [← (view?_eq_some_iff.1 hw').2.1, isCancelled_congr hmove.job, hcancelled]
  obtain ⟨u, hu, hi⟩ := hn.view_induction (I := fun _ v => v.cancelled = true) hw' hcancelled'
    fun _ _ _ _ _ _ _ h hmove => hmove.cancelled_mono h
  exact Option.some.inj (hu.symm.trans hv) ▸ hi

/-- A token that fires in time does so before, or in an action that finds the run open. -/
theorem cancelledInTime_snoc (hp : m.Path acts n) (h : n.step a = some k)
    (hv : n.view? r = some v) (hv' : k.view? r = some v') (hmove : Move r v a v') :
    m.CancelledInTime r (acts ++ [a]) ↔
      m.CancelledInTime r acts ∨ (v.run.stage.isOpen = true ∧ v'.cancelled = true) := by
  have hr := (view?_eq_some_iff.1 hv).1
  have hc : k.isCancelled v.run = v'.cancelled := by
    rw [← (view?_eq_some_iff.1 hv').2.1, isCancelled_congr hmove.job]
  constructor
  · rintro ⟨j, b, j', run, ht, hs, hrun, ho, hcancelled⟩
    rcases ht.of_snoc hp with ht | ⟨rfl, rfl⟩
    · exact .inl ⟨j, b, j', run, ht, hs, hrun, ho, hcancelled⟩
    · obtain rfl := Option.some.inj (hs.symm.trans h)
      obtain rfl := Option.some.inj (hrun.symm.trans hr)
      exact .inr ⟨ho, hc ▸ hcancelled⟩
  · rintro (⟨j, b, j', run, ht, hrest⟩ | ⟨ho, hcancelled⟩)
    · exact ⟨j, b, j', run, ht.append, hrest⟩
    · exact ⟨n, a, k, v.run, hp.takes a, h, hr, ho, hc.trans hcancelled⟩

end Machine

/-- **How a run goes on after a task of it has failed first.** -/
inductive View.Fails (m : Machine) (r : Nat) (first : Extracted) (i : Nat) (e : ContentError)
    (acts : List Action) (v : View) : Prop
  | awaits {before : List Nat} (ha : v.Awaits first i e before)
  | failed (hs : v.run.stage = .ended (.error e)) (hi : v.run.Idle) (hcalls : v.calls = [])
      (hc : ¬ m.CancelledInTime r acts)
  | cancelled (hs : v.run.stage = .ended (.error .cancelled)) (hi : v.run.Idle)
      (hcalls : v.calls = []) (hc : m.CancelledInTime r acts)

namespace Machine

variable {m n k : Machine} {acts after : List Action}

/-- Every step keeps to what becomes of a run after the first failure. -/
theorem Path.fails_snoc (hp : m.Path acts n) (h : n.step a = some k) (hv : n.view? r = some v)
    (hi : v.Fails m r first i e acts) :
    ∃ v', k.view? r = some v' ∧ v'.Fails m r first i e (acts ++ [a]) := by
  obtain ⟨v', hv', hmove⟩ := move_of_step h hv
  refine ⟨v', hv', ?_⟩
  have hsnoc := cancelledInTime_snoc hp h hv hv' hmove
  cases hi with
  | awaits ha =>
      obtain ⟨texts, hg⟩ := ha.gathering
      obtain ⟨before, ha'⟩ | ⟨hc, rfl⟩ | ⟨hc, rfl⟩ := hmove.of_awaits ha
      · exact .awaits ha'
      · refine .failed rfl v.run.idle_fail hg.calls fun hcancelled => ?_
        rcases hsnoc.1 hcancelled with hcancelled | ⟨-, hcancelled⟩
        · exact absurd (hcancelled.cancelled hp hv) (by simp [hc])
        · exact absurd hcancelled (by simp [hc])
      · refine .cancelled rfl v.run.idle_fail hg.calls (hsnoc.2 (.inr ⟨?_, hc⟩))
        rw [hg.stage]
        rfl
  | failed hs hi hcalls hc =>
      obtain ⟨hs', hcalls'⟩ := hmove.of_ended hs
      refine .failed hs' (hmove.of_idle hi).1 (hcalls'.trans hcalls) fun hcancelled => ?_
      rcases hsnoc.1 hcancelled with hcancelled | ⟨ho, -⟩
      · exact hc hcancelled
      · simp [hs, Stage.isOpen] at ho
  | cancelled hs hi hcalls hc =>
      obtain ⟨hs', hcalls'⟩ := hmove.of_ended hs
      exact .cancelled hs' (hmove.of_idle hi).1 (hcalls'.trans hcalls) (hsnoc.2 (.inl hc))

/-- What becomes of a run after the first failure, on every path. -/
theorem Path.fails (hk : m.Path acts k) (hv : k.view? r = some v)
    (hi : v.Fails m r first i e acts) (hp : k.Path after n) :
    ∃ w, n.view? r = some w ∧ w.Fails m r first i e (acts ++ after) := by
  induction hp with
  | nil => exact ⟨v, hv, by simpa using hi⟩
  | snoc hp hs ih =>
      obtain ⟨w, hw, hi⟩ := ih
      rw [← List.append_assoc]
      exact (hk.append hp).fails_snoc hs hw hi

/-- A run none of whose tasks has failed. -/
theorem Path.unhurt (hp : m.Path acts n) (hm : m.Fresh r job) (hfirst : job.firstPage = .ok first)
    (htwo : 2 ≤ first.next.length) (hnone : ∀ b ∈ acts, ¬ FailsTask job r b) :
    ∃ v, n.view? r = some v ∧ v.run.job = job ∧ v.Unhurt first ∧
      v.run.TasksFailBy fun _ => False := by
  refine hp.view_induction (I := fun _ v => v.run.job = job ∧ v.Unhurt first ∧
    v.run.TasksFailBy fun _ => False) hm.view
    ⟨rfl, .fresh rfl rfl rfl rfl, Run.tasksFailBy_fresh job _⟩ ?_
  rintro before k a v v' ⟨before', after, rfl, -⟩ - ⟨rfl, hi, ht⟩ hmove
  refine ⟨hmove.job, hmove.unhurt hi hfirst htwo, hmove.tasksFailBy ht fun i url s e hm => ?_⟩
  exact hnone a (by simp) hm.failsTask

/-- A run that awaits the first failure comes to its end by itself: it looks at the tasks that
ended before, or sees that its token has fired. -/
theorem ends_of_awaits {before : List Nat} (hv : n.view? r = some v)
    (ha : v.Awaits first i e before) :
    ∃ more k run, n.Path more k ∧ (∀ a ∈ more, a = .collect r ∨ a = .notice r) ∧
      k.runs[r]? = some run ∧ run.isOver = true := by
  obtain ⟨texts, hg⟩ := ha.gathering
  obtain ⟨url, hi⟩ := ha.failed
  obtain ⟨after, horder⟩ := ha.order
  cases hc : v.cancelled with
  | true =>
      obtain ⟨k, hk, hv'⟩ :=
        step_of_move hv (.notice (by rw [hg.stage]; rfl) hc) rfl (by simp)
      exact ⟨_, k, _, Path.nil.snoc hk, by simp, (view?_eq_some_iff.1 hv').1, rfl⟩
  | false =>
      -- by induction on the tasks that the run looks at before the one that has failed
      induction before generalizing n v texts with
      | nil =>
          obtain ⟨k, hk, hv'⟩ := step_of_move hv (.collect hg.stage horder hc) rfl (by simp)
          refine ⟨_, k, _, Path.nil.snoc hk, by simp, (view?_eq_some_iff.1 hv').1, ?_⟩
          simp [Run.collect, hi, Run.isOver]
      | cons j before ih =>
          obtain ⟨url', found, hj⟩ := ha.found j (by simp)
          obtain ⟨k, hk, hv'⟩ := step_of_move hv (.collect hg.stage horder hc) rfl (by simp)
          obtain ⟨hfinished, htasks, hg' | ⟨-, hall⟩⟩ := hg.collect horder hj
          · have hi' := htasks ▸ hi
            have ha' : View.Awaits first i e before
                { v with run := v.run.collect j first.text texts } :=
              ⟨⟨_, hg'⟩, ⟨url, hi'⟩, ⟨after, hfinished⟩,
                fun l hl => htasks ▸ ha.found l (by simp [hl])⟩
            obtain ⟨more, k', run, hmore, hacts, hr, hover⟩ :=
              ih hv' ha' _ hg' hi' hfinished hc
            refine ⟨[.collect r] ++ more, k', run, (Path.nil.snoc hk).append hmore, ?_, hr, hover⟩
            intro a hmem
            rcases List.mem_append.1 hmem with hmem | hmem
            · exact .inl (by simpa using hmem)
            · exact hacts a hmem
          · obtain ⟨found, hfound⟩ := hall _ (List.mem_of_getElem? hi)
            cases hfound

/-- A run that has done with its tasks requests nothing any more. -/
theorem Path.idle (hp : n.Path acts k) (hv : n.view? r = some v) (hi : v.run.Idle) :
    k.requestsOf r = n.requestsOf r ∧ ∀ i fires, .launch r i fires ∉ acts := by
  let I : List Action → View → Prop := fun acts w =>
    w.run.Idle ∧ w.requests = v.requests ∧ ∀ i fires, .launch r i fires ∉ acts
  obtain ⟨w, hw, -, hrequests, hlaunch⟩ := hp.view_induction (I := I) hv ⟨hi, rfl, by simp⟩ (by
    rintro before k a u u' - - ⟨hi, hrequests, hlaunch⟩ hmove
    obtain ⟨hi', hrequests', ha⟩ := hmove.of_idle hi
    refine ⟨hi', hrequests'.trans hrequests, fun i fires hmem => ?_⟩
    rcases List.mem_append.1 hmem with hmem | hmem
    · exact hlaunch i fires hmem
    · exact ha i fires (List.mem_singleton.1 hmem).symm)
  refine ⟨?_, hlaunch⟩
  rw [(view?_eq_some_iff.1 hw).2.2.1, hrequests, (view?_eq_some_iff.1 hv).2.2.1]

end Machine

/-- **What is promised of a run of which task `i` has failed first**, with error `e`. -/
structure FailsWhole (m : Machine) (r : Nat) (acts : List Action) (i : Nat) (e : ContentError)
    (n : Machine) (run : Run) : Prop where
  /-- It never has its pages: it waits for one that does not come, or has failed. -/
  no_pages : (∃ first texts, run.stage = .spreading first texts ∧ texts[i]? = some none) ∨
    ∃ f, run.stage = .ended (.error f)
  /-- It stores nothing. -/
  stores_nothing : n.callsOf r = []
  /-- It ends with the error of that task, -/
  failed : ¬ m.CancelledInTime r acts → run.isOver = true → run.stage = .ended (.error e)
  /-- or as cancelled, if its token fires before it has looked at that task. -/
  cancelled : m.CancelledInTime r acts → run.isOver = true →
    run.stage = .ended (.error .cancelled)
  /-- As long as it has not ended, it can do so by itself. -/
  can_end : run.isOver = false → ∃ more k run', n.Path more k ∧
    (∀ a ∈ more, a = .collect r ∨ a = .notice r) ∧ k.runs[r]? = some run' ∧ run'.isOver = true
  /-- Once it has ended, none of its tasks goes on but to let go of what it holds, -/
  aborted : run.isOver = true → ∀ t ∈ run.tasks, t.state.isLive = false
  /-- and none of them requests its page any more. -/
  no_more : run.isOver = true → ∀ more k, n.Path more k →
    k.requestsOf r = n.requestsOf r ∧ ∀ j fires, .launch r j fires ∉ more

/-- **A task that fails takes its run with it**, whatever the other runs do and in whatever order
things happen. -/
theorem Machine.Path.fails_whole {m n : Machine} {acts : List Action} (hm : m.Fresh r job)
    (hfirst : job.firstPage = .ok first) (htwo : 2 ≤ first.next.length)
    (hfail : ∃ a ∈ acts, FailsTask job r a) (hp : m.Path acts n) :
    ∃ i e run, FirstFailure job first.next r acts i e ∧ n.runs[r]? = some run ∧
      FailsWhole m r acts i e n run := by
  obtain ⟨before, a, after, rfl, ⟨i, url, e, hfail⟩, hbefore⟩ := exists_first_failsTask hfail
  obtain ⟨k, k', hk, hs, hn⟩ := hp.split
  obtain ⟨v, hv, rfl, hunhurt, hnone⟩ := hk.unhurt hm hfirst htwo hbefore
  obtain ⟨v', hv', hmove⟩ := move_of_step hs hv
  obtain ⟨url, e, ht, hfail, hrun⟩ := hfail.exists_fetching hmove
  obtain ⟨hurl, hawaits⟩ := hunhurt.awaits hnone hmove ht hrun
  obtain ⟨w, hw, hi⟩ := (hk.snoc hs).fails hv' (.awaits hawaits) hn
  obtain ⟨hr, -, -, hcalls⟩ := view?_eq_some_iff.1 hw
  rw [List.append_assoc, List.singleton_append] at hi
  refine ⟨i, e, w.run, ⟨before, a, after, url, rfl, hurl, hfail, hbefore⟩, hr, ?_⟩
  cases hi with
  | awaits ha =>
      obtain ⟨texts, hg⟩ := ha.gathering
      obtain ⟨url', hi⟩ := ha.failed
      have hover : w.run.isOver = false := by simp [Run.isOver, hg.stage]
      constructor
      case no_pages => exact .inl ⟨_, _, hg.stage, hg.missing i _ hi (by simp)⟩
      case stores_nothing => exact hcalls.trans hg.calls
      case can_end => exact fun _ => ends_of_awaits hw ha
      all_goals simp [hover]
  | failed hs hi hnothing hc =>
      constructor
      case no_pages => exact .inr ⟨e, hs⟩
      case stores_nothing => exact hcalls.trans hnothing
      case failed => exact fun _ _ => hs
      case cancelled => exact fun hc' => absurd hc' hc
      case can_end => simp [Run.isOver, hs]
      case aborted => exact fun _ => hi.tasks
      case no_more => exact fun _ more k hmore => hmore.idle hw hi
  | cancelled hs hi hnothing hc =>
      constructor
      case no_pages => exact .inr ⟨_, hs⟩
      case stores_nothing => exact hcalls.trans hnothing
      case failed => exact fun hc' => absurd hc hc'
      case cancelled => exact fun _ _ => hs
      case can_end => simp [Run.isOver, hs]
      case aborted => exact fun _ => hi.tasks
      case no_more => exact fun _ more k hmore => hmore.idle hw hi

/-- Two tasks share one slot, and the first one dies; the other one never requests its page. -/
theorem Machine.fails_whole_twofold : ∃ acts n run i e,
    (Machine.ofJobs (.ofSize 1) [Job.twofold]).Path acts n ∧ n.runs[0]? = some run ∧
      FirstFailure Job.twofold Job.twofoldFirst.next 0 acts i e ∧
      run.stage = .ended (.error (.ofDeath 0 ['x'])) ∧
      n.requestsOf 0 = [Job.twofold.requestFor 0 ['v']] ∧
      FailsWhole (Machine.ofJobs (.ofSize 1) [Job.twofold]) 0 acts i e n run := by
  obtain ⟨_, _, p1, v1⟩ := Machine.exists_launched Job.firstPage_twofold false
  obtain ⟨_, p2, v2⟩ := p1.move (a := .die 0 0 ['x']) v1 (.die rfl) rfl (by simp)
  obtain ⟨n, p3, v3⟩ := p2.move (a := .collect 0) v2 (.collect rfl rfl rfl) rfl (by simp)
  obtain ⟨i, e, run, hfirst, hr, h⟩ := Machine.Path.fails_whole (Machine.fresh_ofJobs rfl _)
    Job.firstPage_twofold (by decide) ⟨.die 0 0 ['x'], by simp, 0, ['v'], _, .death⟩ p3
  obtain ⟨hr', -, hq, -⟩ := Machine.view?_eq_some_iff.1 v3
  obtain rfl := Option.some.inj (hr.symm.trans hr')
  exact ⟨_, n, _, i, e, p3, hr, hfirst, rfl, hq, h⟩

end Content

end ChapterAssembly
