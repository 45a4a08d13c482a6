/-
**A cancelled chapter is never stored.**

The token of a run can fire at any time: before the run begins, while a request of its walk is out,
in the midst of a reply, while its tasks wait for slots, or after the last of them has ended.  A
run that is cancelled while it is still open is *doomed*: it can only stay open or fail, and
nothing is ever stored of its chapter.

Main definitions:

* `Machine.CancelledInTime` — the token of a run fires before the run has passed its last check;
* `Machine.Smooth` — no page of a run fails by itself;
* `View.Doomed` — a cancelled run that can only fail;
* `Cancels` — what is promised of cancellations.

Main results:

* `Move.doomed` — a doomed run stays doomed;
* `Move.orderly`, `Move.failsByCancelling` — what every move keeps;
* `Machine.Path.cancels` — **a run that is cancelled in time fails and stores nothing**.
-/

import ChapterAssembly.Proofs.Run.Stage

set_option relaxedAutoImplicit false
set_option autoImplicit false

namespace ChapterAssembly

namespace Content

/-! ### Doomed runs -/

/-- A cancelled run that has not passed its last check, or has failed before it. -/
def View.Doomed (v : View) : Prop :=
  v.calls = [] ∧ ((v.run.stage.isOpen = true ∧ v.cancelled = true) ∨
    ∃ e, v.run.stage = .ended (.error e) ∧ e.comesEarly = true)

variable {r : Nat} {v v' : View} {a : Action}

/-- A move that leaves a cancelled run behind finds it before its last check, or dooms it. -/
theorem Move.doomed_of_open (h : Move r v a v') (ho : v.run.stage.isOpen = true)
    (hs : v.calls = []) (ht : v.run.TasksComeEarly) (hc : v'.cancelled = true) : v'.Doomed := by
  rcases h.of_open ho ht with ⟨ho', hs'⟩ | ⟨e, he, hearly, hs', -⟩ | ⟨_, _, _, -, hc', -⟩
  · exact ⟨hs'.trans hs, .inl ⟨ho', hc⟩⟩
  · exact ⟨hs'.trans hs, .inr ⟨e, he, hearly⟩⟩
  · -- the last check would have seen the cancellation
    simp [hc] at hc'

/-- **A doomed run stays doomed.** -/
theorem Move.doomed (h : Move r v a v') (hd : v.Doomed) (ht : v.run.TasksComeEarly) :
    v'.Doomed := by
  obtain ⟨hs, ⟨ho, hc⟩ | ⟨e, he, hearly⟩⟩ := hd
  · exact h.doomed_of_open ho hs ht (h.cancelled_mono hc)
  · obtain ⟨he', hs'⟩ := h.of_ended he
    exact ⟨hs'.trans hs, .inr ⟨e, he', hearly⟩⟩

/-- A cancelled run that is still open can fail. -/
theorem View.exists_failing_move {d : Delivery} (ho : v.run.stage.isOpen = true)
    (hc : v.cancelled = true) (hd : v.run.job.delivery? = some d) :
    ∃ a v' e, a.run? = some r ∧ (∀ i fires, a ≠ .launch r i fires) ∧ Move r v a v' ∧
      v'.run.stage = .ended (.error e) := by
  -- a run that waits sees its token at once, any other at the check of its next move
  cases hs : v.run.stage with
  | fresh =>
      rcases Run.begun_stage v.run v.cancelled with ⟨hc', -⟩ | ⟨e, he, -⟩
      · simp [hc] at hc'
      · exact ⟨_, _, e, rfl, by simp, .begin hs, he⟩
  | asking | walking | spreading =>
      exact ⟨_, _, _, rfl, by simp, .notice (by rw [hs]; rfl) hc, rfl⟩
  | gathered => exact ⟨_, _, _, rfl, by simp, .abandon hs hc, rfl⟩
  | assembled pages =>
      rcases Run.delivered_stage v.run v.cancelled d pages with ⟨e, he, -⟩ | ⟨hc', -⟩
      · exact ⟨_, _, e, rfl, by simp, .deliver hs hd, he⟩
      · simp [hc] at hc'
  | saving | updating | ended => simp [hs, Stage.isOpen] at ho

/-! ### What every move keeps -/

/-- What holds of a run after some actions, so far as failures and cancellations go. -/
structure View.Orderly (r : Nat) (acts : List Action) (v : View) : Prop where
  early : v.run.TasksComeEarly
  no_tasks : v.run.stage = .fresh → v.run.tasks = []
  /-- Nothing is stored before the last check. -/
  unstored : v.run.stage.isOpen = true → v.calls = []
  /-- A cancelled request counts as a cancelled run. -/
  not_fetch : v.run.stage ≠ .ended (.error (.fetch .cancelled))
  /-- A run whose walk was answered that its request is cancelled has ended so. -/
  walk : ∀ fires, .exchange r (.error .cancelled) fires ∈ acts ∨
    .reply r (.error .cancelled) fires ∈ acts → v.run.stage = .ended (.error .cancelled)
  /-- A task that was answered so has ended so. -/
  task : ∀ i fires, .answer r i (.error .cancelled) fires ∈ acts →
    ∃ url, v.run.tasks[i]? = some ⟨url, .ended (.error .cancelled)⟩

/-- A move leads to an open run only from an open one, and then asks for nothing. -/
theorem Move.isOpen_of_isOpen (h : Move r v a v') (ht : v.run.TasksComeEarly)
    (ho : v'.run.stage.isOpen = true) : v.run.stage.isOpen = true ∧ v'.calls = v.calls := by
  rcases v.run.stage.isOpen_or_stores_or_ended with ho' | hs | ⟨outcome, hs⟩
  · rcases h.of_open ho' ht with ⟨-, hc⟩ | ⟨e, he, -⟩ | ⟨_, d, _, -, -, -, -, -, hp⟩
    · exact ⟨ho', hc⟩
    · simp [he, Stage.isOpen] at ho
    · split at hp <;> simp [hp.1, Stage.isOpen] at ho
  · rcases h.of_stores hs with ⟨hs', -⟩ | ⟨e, hs', -⟩ | ⟨-, ⟨s, -, -, hs', -⟩ | ⟨s, -, hs', -⟩⟩
    · rw [← hs', stores_of_isOpen ho] at hs
      cases hs
    all_goals simp [hs', Stage.isOpen] at ho
  · simp [(h.of_ended hs).1, Stage.isOpen] at ho

/-- A run fails before it stores anything, or because the storage does. -/
theorem Move.error_of_error (h : Move r v a v') (ht : v.run.TasksComeEarly) {e : ContentError}
    (he : v'.run.stage = .ended (.error e)) :
    v.run.stage = .ended (.error e) ∨ (∃ f, e = .storage f) ∨
      (v.run.stage.isOpen = true ∧ e.comesEarly = true ∧ (e = .cancelled ∨
        (a.run? = some r ∧ v.Mishap a) ∨ ∃ t ∈ v.run.tasks, t.state = .ended (.error e))) := by
  rcases v.run.stage.isOpen_or_stores_or_ended with ho | hs | ⟨outcome, hs⟩
  · rcases h.of_open ho ht with ⟨ho', -⟩ | ⟨e', he', hearly, -, hwhy⟩ |
      ⟨_, d, _, -, -, -, -, -, hp⟩
    · simp [he, Stage.isOpen] at ho'
    · obtain rfl : e = e' := by simpa [he] using he'
      exact .inr (.inr ⟨ho, hearly, hwhy⟩)
    · split at hp <;> simp [he] at hp
  · rcases h.of_stores hs with ⟨hs', -⟩ | ⟨f, hs', -⟩ | ⟨-, ⟨s, -, -, hs', -⟩ | ⟨s, -, hs', -⟩⟩
    · exact .inl (hs'.symm.trans he)
    · exact .inr (.inl ⟨f, by simpa [he] using hs'⟩)
    all_goals simp [he] at hs'
  · exact .inl (hs.trans ((h.of_ended hs).1.symm.trans he))

/-- **Every move keeps failures and cancellations in order.** -/
theorem Move.orderly {acts : List Action} (h : Move r v a v') (hi : v.Orderly r acts) :
    v'.Orderly r (acts ++ [a]) where
  early := h.tasksComeEarly hi.early
  no_tasks := h.no_tasks hi.no_tasks
  unstored := by
    intro ho
    obtain ⟨ho', hc⟩ := h.isOpen_of_isOpen hi.early ho
    exact hc.trans (hi.unstored ho')
  not_fetch := by
    intro hs
    rcases h.error_of_error hi.early hs with hs | ⟨f, hf⟩ | ⟨-, he, -⟩
    · exact hi.not_fetch hs
    · cases hf
    · cases he
  walk := by
    intro fires hmem
    simp only [List.mem_append, List.mem_singleton] at hmem
    rcases hmem with (hmem | rfl) | (hmem | rfl)
    · exact (h.of_ended (hi.walk fires (.inl hmem))).1
    · cases h with
      | other ha => exact absurd rfl ha
      | exchange => rfl
    · exact (h.of_ended (hi.walk fires (.inr hmem))).1
    · cases h with
      | other ha => exact absurd rfl ha
      | reply => rfl
  task := by
    intro i fires hmem
    simp only [List.mem_append, List.mem_singleton] at hmem
    rcases hmem with hmem | rfl
    · obtain ⟨url, ht⟩ := hi.task i fires hmem
      refine ⟨url, h.task_ended (fun hf => ?_) ht⟩
      simp [hi.no_tasks hf] at ht
    · cases h with
      | other ha => exact absurd rfl ha
      | @answer i url reply fires ht =>
          refine ⟨url, ?_⟩
          simp [Run.endTask, Run.setTask, ht, readReply, ContentError.ofFetch, Except.map]

/-- Errors that come early are only those of cancellations. -/
structure View.FailsByCancelling (v : View) : Prop where
  task : v.run.TasksFailBy (· = .cancelled)
  run : ∀ e, v.run.stage = .ended (.error e) → e.comesEarly = true → e = .cancelled

/-- **A run whose pages do not fail by themselves fails by being cancelled.** -/
theorem Move.failsByCancelling (h : Move r v a v') (hi : v.FailsByCancelling)
    (hs : a.run? = some r → ¬ v.Mishap a) : v'.FailsByCancelling where
  task := by
    refine h.tasksFailBy hi.task fun i url s e hm => ?_
    rcases hm.of_error with ⟨reply, fires, rfl, hr⟩ | ⟨message, rfl, -⟩
    · rcases refuses_of_readReply hr with he | hrefuses
      · exact he
      · exact absurd hrefuses (hs rfl)
    · exact absurd trivial (hs rfl)
  run := by
    intro e he hearly
    have htasks : v.run.TasksComeEarly := by
      intro t ht e he
      rw [hi.task t ht e he]
      rfl
    rcases h.error_of_error htasks he with
      he | ⟨f, rfl⟩ | ⟨-, -, he | ⟨ha, hmishap⟩ | ⟨t, ht, he⟩⟩
    · exact hi.run e he hearly
    · cases hearly
    · exact he
    · exact absurd hmishap (hs ha)
    · exact hi.task t ht e he

/-! ### Every run -/

namespace Machine

variable {m n : Machine} {job : Job} {d : Delivery} {acts : List Action}

/-- The token of run `r` has fired by the end of an action that finds the run before its last
check. -/
def CancelledInTime (m : Machine) (r : Nat) (acts : List Action) : Prop :=
  ∃ k a k' run, m.Takes acts k a ∧ k.step a = some k' ∧ k.runs[r]? = some run ∧
    run.stage.isOpen = true ∧ k'.isCancelled run = true

/-- No page of run `r` fails by itself, nor its rules, nor is its text blank. -/
def Smooth (m : Machine) (r : Nat) (acts : List Action) : Prop :=
  ∀ k a v, m.Takes acts k a → k.view? r = some v → a.run? = some r → ¬ v.Mishap a

theorem smooth_nil : m.Smooth r [] := by
  rintro k a v ⟨before, after, h, -⟩
  simp at h

theorem Smooth.snoc (h : m.Smooth r acts) (hp : m.Path acts n) (hv : n.view? r = some v)
    (ha : a.run? = some r → ¬ v.Mishap a) : m.Smooth r (acts ++ [a]) := by
  rintro k b w ⟨before, after, heq, hk⟩ hw hb
  rcases List.eq_nil_or_concat after with rfl | ⟨after, c, rfl⟩
  · obtain ⟨rfl, hab⟩ := List.append_inj' heq rfl
    obtain rfl : a = b := by simpa using hab
    obtain rfl := hk.unique hp
    obtain rfl := Option.some.inj (hw.symm.trans hv)
    exact ha hb
  · rw [List.concat_eq_append, ← List.cons_append, ← List.append_assoc] at heq
    obtain ⟨rfl, -⟩ := List.append_inj' heq rfl
    exact h k b w ⟨before, after, rfl, hk⟩ hw hb

/-- A run on a path is in order. -/
theorem Path.orderly (hp : m.Path acts n) (hm : m.Fresh r job) :
    ∃ v, n.view? r = some v ∧ v.run.job = job ∧ v.Orderly r acts := by
  refine hp.view_induction (I := fun acts v => v.run.job = job ∧ v.Orderly r acts) hm.view
    ⟨rfl, ?_⟩ fun before k a v v' _ _ hi hmove => ⟨hmove.job.trans hi.1, hmove.orderly hi.2⟩
  exact ⟨Run.tasksFailBy_fresh job _, fun _ => rfl, fun _ => rfl, by simp, by simp, by simp⟩

/-- A run that was cancelled in time is doomed. -/
theorem Path.doomed (hp : m.Path acts n) (hm : m.Fresh r job) (hc : m.CancelledInTime r acts) :
    ∃ v, n.view? r = some v ∧ v.Doomed := by
  obtain ⟨k, a, k', run, ht, hs, hr, ho, hcancelled⟩ := hc
  obtain ⟨before, j, after, -, hk, hs', hn⟩ := ht.split hp
  obtain rfl := Option.some.inj (hs.symm.trans hs')
  -- up to the action that finds the token fired the run is in order, from then on it is doomed
  obtain ⟨v, hv, -, hi⟩ := hk.orderly hm
  obtain ⟨v', hv', hmove⟩ := move_of_step hs hv
  obtain rfl : run = v.run := Option.some.inj (hr.symm.trans (view?_eq_some_iff.1 hv).1)
  have hdoomed : v'.Doomed := by
    refine hmove.doomed_of_open ho (hi.unstored ho) hi.early ?_
    rw [← (view?_eq_some_iff.1 hv').2.1, isCancelled_congr hmove.job, hcancelled]
  obtain ⟨w, hw, -, hd⟩ := hn.view_induction (I := fun _ v => v.run.TasksComeEarly ∧ v.Doomed) hv'
    ⟨hmove.tasksComeEarly hi.early, hdoomed⟩
    fun _ _ _ _ _ _ _ h hmove => ⟨hmove.tasksComeEarly h.1, hmove.doomed h.2 h.1⟩
  exact ⟨w, hw, hd⟩

/-- A smooth run fails only by being cancelled. -/
theorem Path.failsByCancelling (hp : m.Path acts n) (hm : m.Fresh r job)
    (hs : m.Smooth r acts) : ∃ v, n.view? r = some v ∧ v.FailsByCancelling := by
  refine hp.view_induction (I := fun _ v => v.FailsByCancelling) hm.view
    ⟨Run.tasksFailBy_fresh job _, by simp⟩ fun _ k a v v' ht hv hi hmove => ?_
  exact hmove.failsByCancelling hi (hs k a v ht hv)

end Machine

/-- **What is promised of cancellations**, at every moment of a run. -/
structure Cancels (m : Machine) (r : Nat) (acts : List Action) (n : Machine) (run : Run) :
    Prop where
  /-- A run that is cancelled in time stores nothing. -/
  stores_nothing : m.CancelledInTime r acts → n.callsOf r = []
  /-- It ends with an error. -/
  fails : m.CancelledInTime r acts → run.isOver = true → ∃ e, run.stage = .ended (.error e)
  /-- As long as it has not ended, it can do so at once. -/
  can_fail : m.CancelledInTime r acts → run.isOver = false →
    ∃ a k run' e, a.run? = some r ∧ n.step a = some k ∧ k.runs[r]? = some run' ∧
      run'.stage = .ended (.error e)
  /-- It ends as cancelled unless a page fails by itself. -/
  exactly : m.CancelledInTime r acts → m.Smooth r acts →
    ∀ e, run.stage = .ended (.error e) → e = .cancelled
  /-- No run ends with a cancelled request, cancelled or not. -/
  never_fetch : run.stage ≠ .ended (.error (.fetch .cancelled))
  /-- A request of a walk that is answered as cancelled ends the run as cancelled. -/
  walk : ∀ fires, .exchange r (.error .cancelled) fires ∈ acts ∨
    .reply r (.error .cancelled) fires ∈ acts → run.stage = .ended (.error .cancelled)
  /-- A request of a task that is answered so ends the task as cancelled, -/
  task : ∀ i fires, .answer r i (.error .cancelled) fires ∈ acts →
    ∃ url, run.tasks[i]? = some ⟨url, .ended (.error .cancelled)⟩
  /-- and the run ends with the error of a task when it looks at it. -/
  collect : ∀ i url e k, run.finished.head? = some i →
    run.tasks[i]? = some ⟨url, .ended (.error e)⟩ → n.step (.collect r) = some k →
    ∃ run', k.runs[r]? = some run' ∧ run'.stage = .ended (.error e)

/-- **A run that is cancelled in time fails and stores nothing**, whatever the other runs do and
in whatever order things happen. -/
theorem Machine.Path.cancels {m n : Machine} {job : Job} {d : Delivery} {acts : List Action}
    (hm : m.Fresh r job) (hd : job.delivery? = some d) (hp : m.Path acts n) :
    ∃ run, n.runs[r]? = some run ∧ Cancels m r acts n run := by
  obtain ⟨v, hv, rfl, hi⟩ := hp.orderly hm
  obtain ⟨hr, -, -, hcalls⟩ := Machine.view?_eq_some_iff.1 hv
  have hdoomed : m.CancelledInTime r acts → v.Doomed := by
    intro hc
    obtain ⟨w, hw, hdoomed⟩ := hp.doomed hm hc
    exact Option.some.inj (hw.symm.trans hv) ▸ hdoomed
  refine ⟨v.run, hr, ?_⟩
  constructor
  case stores_nothing => exact fun hc => hcalls.trans (hdoomed hc).1
  case fails =>
    intro hc hover
    obtain ⟨-, ⟨ho, -⟩ | ⟨e, he, -⟩⟩ := hdoomed hc
    · cases hs : v.run.stage <;> simp_all [Stage.isOpen, Run.isOver]
    · exact ⟨e, he⟩
  case can_fail =>
    intro hc hover
    obtain ⟨-, ⟨ho, hcancelled⟩ | ⟨e, he, -⟩⟩ := hdoomed hc
    · obtain ⟨a, v', e, ha, hlaunch, hmove, he⟩ := View.exists_failing_move ho hcancelled hd
      obtain ⟨k, hk, hv'⟩ :=
        Machine.step_of_move hv hmove ha fun i fires h => absurd h (hlaunch i fires)
      exact ⟨a, k, v'.run, e, ha, hk, (Machine.view?_eq_some_iff.1 hv').1, he⟩
    · simp [Run.isOver, he] at hover
  case exactly =>
    intro hc hs e he
    obtain ⟨w, hw, hfails⟩ := hp.failsByCancelling hm hs
    obtain rfl := Option.some.inj (hw.symm.trans hv)
    obtain ⟨-, ⟨ho, -⟩ | ⟨e', he', hearly⟩⟩ := hdoomed hc
    · simp [he, Stage.isOpen] at ho
    · obtain rfl : e = e' := by simpa [he] using he'
      exact hfails.run e he hearly
  case never_fetch => exact hi.not_fetch
  case walk => exact hi.walk
  case task => exact hi.task
  case collect =>
    intro i url e k hf ht hk
    obtain ⟨run, first, texts, j, rest, hr', -, hf', -, rfl⟩ := Machine.step_collect_iff.1 hk
    obtain rfl := Option.some.inj (hr.symm.trans hr')
    obtain rfl : j = i := by simpa [hf'] using hf
    refine ⟨_, Machine.getElem?_set_of_eq_some hr _, ?_⟩
    simp [Run.collect, ht]

/-- The token of a short chapter fires when its pages are complete, and it is not stored. -/
theorem Machine.cancels_short : ∃ acts n run,
    (Machine.ofJobs (.ofSize 1) [Job.short]).Path acts n ∧ n.runs[0]? = some run ∧
      (Machine.ofJobs (.ofSize 1) [Job.short]).CancelledInTime 0 acts ∧
      (Machine.ofJobs (.ofSize 1) [Job.short]).Smooth 0 acts ∧
      run.stage = .ended (.error .cancelled) ∧ n.callsOf 0 = [] ∧
      Cancels (Machine.ofJobs (.ofSize 1) [Job.short]) 0 acts n run := by
  have hm : (Machine.ofJobs (.ofSize 1) [Job.short]).Fresh 0 Job.short := Machine.fresh_ofJobs rfl _
  have hbegin : Move 0 ⟨{ job := Job.short }, false, [], []⟩ (.begin 0) ⟨_, false, [], []⟩ :=
    .begin rfl
  rw [Run.begun_short] at hbegin
  obtain ⟨k, h1, v1⟩ := Machine.Path.nil.move hm.view hbegin rfl (by simp)
  have h2 := h1.snoc (a := .fire 0) rfl
  have v2 := Machine.view?_fire v1
  obtain ⟨n, h3, v3⟩ := h2.move v2 (.deliver rfl rfl) rfl (by simp)
  obtain ⟨run, hr, h⟩ := Machine.Path.cancels hm rfl h3
  obtain ⟨hr', -, -, hs⟩ := Machine.view?_eq_some_iff.1 v3
  obtain rfl := Option.some.inj (hr.symm.trans hr')
  refine ⟨_, n, _, h3, hr, ?_, ?_, rfl, hs, h⟩
  · refine ⟨k, .fire 0, k.fire 0, _, ⟨[.begin 0], [.deliver 0], rfl, h1⟩, rfl,
      (Machine.view?_eq_some_iff.1 v1).1, rfl, ?_⟩
    exact (Machine.view?_eq_some_iff.1 v2).2.1
  · have hs1 := Machine.smooth_nil.snoc .nil hm.view (a := .begin 0) fun _ =>
      not_refuses_of_readReply Job.firstPage_short
    have hs2 := hs1.snoc h1 v1 (a := .fire 0) (by simp [Action.run?])
    refine hs2.snoc h2 v2 fun _ => ?_
    rintro ⟨pages, d, hs, -, hblank⟩
    obtain rfl : Pages.ofFirst "\u3000\u3000x" = pages := by simpa using hs
    exact absurd (hblank _ rfl).2 (by decide)

end Content

end ChapterAssembly
