/-
**Requests after a cancellation.**

A run looks at its token before it requests a page of its walk, and does both at once.  Pages that
are fetched side by side are requested by tasks, and a task does not look at the token: once it has
its slot it requests its page, even if the token has fired, until the run has seen that and tells it
to stop.

Main definitions:

* `Machine.RequestsLate` — a run makes a request after its token has fired.

Main results:

* `Move.late` — a run that is cancelled requests nothing but by its tasks;
* `Machine.exists_requestsLate` — every page that is named among several is requested late in some
  run;
* `Machine.requests_in_time_iff` — **when a run makes no request after its token has fired**;
* `Machine.requestsLate_twofold` — a task requests its page in a run that is cancelled.
-/

import ChapterAssembly.Proofs.Failure
import ChapterAssembly.Proofs.Occupancy
import ChapterAssembly.Proofs.Walk

set_option relaxedAutoImplicit false
set_option autoImplicit false

namespace ChapterAssembly

namespace Content

variable {job : Job} {first : Extracted} {r i : Nat} {url : Text} {a : Action} {v v' : View}

/-- **A run that is cancelled requests nothing**, unless one of its tasks does. -/
theorem Move.late (h : Move r v a v') (hc : v.cancelled = true) :
    v'.requests = v.requests ∨ ∃ i url fires, a = .launch r i fires ∧
      v.run.tasks[i]? = some ⟨url, .queued⟩ ∧
      v'.requests = v.requests ++ [v.run.job.requestFor i url] := by
  cases h with
  | request _ hactive | exchange _ hactive => simp [hc] at hactive
  | launch ht => exact .inr ⟨_, _, _, rfl, ht, rfl⟩
  | _ => exact .inl rfl

/-- A task that may still request its page is one of a run that waits for its tasks, and stands at
the position of its page. -/
theorem View.Unhurt.of_queued (hi : v.Unhurt first)
    (ht : v.run.tasks[i]? = some ⟨url, .queued⟩) :
    first.next[i]? = some url ∧ v.run.stage.waits = true := by
  cases hi with
  | fresh _ hnil => simp [hnil] at ht
  | gathering hg => exact ⟨by simp [← hg.tasks, ht], by simp [hg.stage, Stage.waits]⟩
  | idle hidle => cases hidle.tasks _ (List.mem_of_getElem? ht)

namespace Machine

variable {m n k : Machine} {acts : List Action} {jobs : List Job} {s : Nat}
  {q : Option Nat × FetchTarget}

/-- Some actions lead to the machine `k`, in which the token of run `r` has fired, and an action
from there makes the request `q` of the run. -/
def RequestsLate (m : Machine) (r : Nat) (acts : List Action) (k : Machine)
    (q : Option Nat × FetchTarget) : Prop :=
  ∃ a k' run, m.Path acts k ∧ k.step a = some k' ∧ k.runs[r]? = some run ∧
    k.isCancelled run = true ∧ k'.requestsOf r = k.requestsOf r ++ [q]

/-- A request that is made late is that of a task that has its slot. -/
theorem RequestsLate.exists_queued (h : m.RequestsLate r acts k q) :
    ∃ v i url, m.Path acts k ∧ k.view? r = some v ∧ v.cancelled = true ∧
      v.run.tasks[i]? = some ⟨url, .queued⟩ ∧ k.pool.holds (r, i) = true ∧
      q = v.run.job.requestFor i url := by
  obtain ⟨a, k', run, hp, hs, hr, hc, hq⟩ := h
  obtain ⟨v, hv, rfl⟩ : ∃ v, k.view? r = some v ∧ v.run = run := by simp [view?, hr]
  obtain ⟨v', hv', hmove⟩ := move_of_step hs hv
  obtain ⟨-, hcancelled, hrequests, -⟩ := view?_eq_some_iff.1 hv
  rw [(view?_eq_some_iff.1 hv').2.2.1, hrequests] at hq
  rcases hmove.late (hcancelled.symm.trans hc) with hsame | ⟨i, url, fires, rfl, ht, hq'⟩
  · simp [hsame] at hq
  · obtain ⟨run, url', -, hholds, -⟩ := step_launch_iff.1 hs
    exact ⟨v, i, url, hp, hv, hcancelled.symm.trans hc, ht, hholds,
      by simpa [hq'] using hq.symm⟩

/-- **Only a task that waits for its turn requests its page late**, for the first time, and the run
has not yet seen that it is cancelled. -/
theorem RequestsLate.exists_first (hj : jobs[r]? = some job)
    (h : (ofJobs (.ofSize s) jobs).RequestsLate r acts k q) :
    ∃ first i url, job.firstPage = .ok first ∧ 2 ≤ first.next.length ∧
      first.next[i]? = some url ∧ q = job.requestFor i url ∧ k.pool.holds (r, i) = true ∧
      q ∉ k.requestsOf r ∧ ∃ k', k.step (.notice r) = some k' := by
  obtain ⟨v, i, url, hp, hv, hc, ht, hholds, rfl⟩ := h.exists_queued
  have hm := fresh_ofJobs hj (.ofSize s)
  obtain ⟨hr, hcancelled, hrequests, -⟩ := view?_eq_some_iff.1 hv
  -- a run with tasks has a first page that names several others
  obtain ⟨first, hfirst, htwo⟩ :
      ∃ first, v.run.job.firstPage = .ok first ∧ 2 ≤ first.next.length := by
    rcases hp.kept.fan r v.run hr with hnil | ⟨-, hfan⟩
    · simp [hnil] at ht
    · exact hfan
  obtain ⟨w, hw, hjob, hunhurt⟩ := hp.view_induction
    (I := fun _ w => w.run.job = job ∧ (job.firstPage = .ok first → w.Unhurt first)) hm.view
    ⟨rfl, fun _ => .fresh rfl rfl rfl rfl⟩ (by
      rintro before k a v v' - - ⟨hjob, hi⟩ hmove
      exact ⟨hmove.job.trans hjob, fun hf => hmove.unhurt (hi hf) (hjob ▸ hf) htwo⟩)
  obtain rfl := Option.some.inj (hw.symm.trans hv)
  obtain ⟨hurl, hwaits⟩ := (hunhurt (hjob ▸ hfirst)).of_queued ht
  refine ⟨first, i, url, hjob ▸ hfirst, htwo, hurl, by rw [hjob], hholds, fun hmem => ?_,
    _, step_notice_iff.2 ⟨_, hr, hcancelled.trans hc, hwaits, rfl⟩⟩
  have hstanding := hp.kept.standing (r, i)
  rw [stateAt_of_view (p := (r, i)) hv, Run.stateAt, ht] at hstanding
  cases hstanding with
  | queued _ hnot =>
      exact hnot (List.any_eq_true.2 ⟨_, hmem, by simp [Job.requestFor]⟩)

/-- **Every page that is named among several can be requested late**, and before all others. -/
theorem exists_requestsLate (hj : jobs[r]? = some job) (hfirst : job.firstPage = .ok first)
    (htwo : 2 ≤ first.next.length) (hurl : first.next[i]? = some url) :
    ∃ acts k, (ofJobs (.ofSize s) jobs).RequestsLate r acts k (job.requestFor i url) := by
  have hm := fresh_ofJobs hj (.ofSize s)
  obtain ⟨body, hb⟩ := Job.exists_body_of_firstPage hfirst
  have hbegin : Move r ⟨{ job }, false, [], []⟩ (.begin r) ⟨_, false, [], []⟩ := .begin rfl
  rw [Run.begun_of_firstPage hb hfirst, Run.spread_of_many _ _ htwo] at hbegin
  obtain ⟨_, p1, v1⟩ := Path.nil.move hm.view hbegin rfl (by simp)
  obtain ⟨_, p2, v2⟩ := p1.move (a := .queue r i) v1 (.queue (by simp [hurl]; rfl)) rfl (by simp)
  have p3 := p2.snoc (a := .fire job.token) rfl
  have v3 := view?_fire v2
  obtain ⟨k', hstep, v4⟩ := step_of_move (a := .launch r i false) v3
    (.launch (by simp [Run.setTask, hurl]; rfl)) rfl (by
      rintro i fires ⟨⟩
      rw [fire_pool, p2.pool]
      exact Pool.holds_enter _ _ rfl)
  obtain ⟨hr, hc, hq, -⟩ := view?_eq_some_iff.1 v3
  exact ⟨_, _, _, k', _, p3, hstep, hr, hc,
    (view?_eq_some_iff.1 v4).2.2.1.trans (congrArg (· ++ [job.requestFor i url]) hq.symm)⟩

/-- **A run makes no request after its token has fired** as long as its first page does not name
several others, whatever the other runs do and in whatever order things happen.  If it does, a task
can: it then requests its own page, for the first time, and the run has not yet seen that it is
cancelled. -/
theorem requests_in_time_iff (hj : jobs[r]? = some job) :
    ((∀ acts k q, ¬ (ofJobs (.ofSize s) jobs).RequestsLate r acts k q) ↔
      ∀ first, job.firstPage = .ok first → first.next.length ≤ 1) ∧
    ∀ acts k q, (ofJobs (.ofSize s) jobs).RequestsLate r acts k q →
      ∃ first i url, job.firstPage = .ok first ∧ first.next[i]? = some url ∧
        q = job.requestFor i url ∧ k.pool.holds (r, i) = true ∧ q ∉ k.requestsOf r ∧
        ∃ k', k.step (.notice r) = some k' := by
  refine ⟨⟨fun hnever first hfirst => ?_, fun hfew acts k q h => ?_⟩, fun acts k q h => ?_⟩
  · by_contra hmany
    have htwo : 2 ≤ first.next.length := by omega
    have hurl : first.next[0]? = some first.next[0] := List.getElem?_eq_getElem (by omega)
    obtain ⟨acts, k, h⟩ := exists_requestsLate (s := s) hj hfirst htwo hurl
    exact hnever acts k _ h
  · obtain ⟨first, i, url, hfirst, htwo, -⟩ := h.exists_first hj
    have := hfew first hfirst
    omega
  · obtain ⟨first, i, url, hfirst, -, hrest⟩ := h.exists_first hj
    exact ⟨first, i, url, hfirst, hrest⟩

/-- A walk requests nothing late. -/
theorem requests_in_time_looped : [Job.looped][0]? = some Job.looped ∧
    ∀ acts k q, ¬ (ofJobs (.ofSize 1) [Job.looped]).RequestsLate 0 acts k q := by
  have hjob : [Job.looped][0]? = some Job.looped := rfl
  refine ⟨hjob, (requests_in_time_iff hjob).1.2 fun first hfirst => ?_⟩
  obtain rfl : linkPage.found = first := by simpa [Job.firstPage_looped] using hfirst
  decide

/-- There are slots for both tasks.  The token fires as the first of them makes its request, which
ends at once, as cancelled; the other one then gets a slot and requests its page, in a run that is
cancelled. -/
theorem requestsLate_twofold : ∃ k, (ofJobs (.ofSize 4) [Job.twofold]).RequestsLate 0
    [.begin 0, .queue 0 0, .launch 0 0 true, .answer 0 0 (.error .cancelled) false, .queue 0 1]
    k (Job.twofold.requestFor 1 ['w']) := by
  have hm : (ofJobs (.ofSize 4) [Job.twofold]).Fresh 0 Job.twofold := fresh_ofJobs rfl _
  have hbegin : Move 0 ⟨{ job := Job.twofold }, false, [], []⟩ (.begin 0) ⟨_, false, [], []⟩ :=
    .begin rfl
  rw [Run.begun_of_firstPage rfl Job.firstPage_twofold] at hbegin
  obtain ⟨_, p1, v1⟩ := Path.nil.move hm.view hbegin rfl (by simp)
  obtain ⟨_, p2, v2⟩ := p1.move (a := .queue 0 0) v1 (.queue rfl) rfl (by simp)
  obtain ⟨_, p3, v3⟩ := p2.move (a := .launch 0 0 true) v2 (.launch rfl) rfl (by
    rintro i fires ⟨⟩
    rw [p2.pool]
    rfl)
  obtain ⟨_, p4, v4⟩ := p3.move (a := .answer 0 0 (.error .cancelled) false) v3 (.answer rfl) rfl
    (by simp)
  obtain ⟨k, p5, v5⟩ := p4.move (a := .queue 0 1) v4 (.queue rfl) rfl (by simp)
  obtain ⟨k', hstep, v6⟩ := step_of_move (a := .launch 0 1 false) v5 (.launch rfl) rfl (by
    rintro i fires ⟨⟩
    rw [p5.pool]
    rfl)
  obtain ⟨hr, hc, hq, -⟩ := view?_eq_some_iff.1 v5
  exact ⟨k, _, k', _, p5, hstep, hr, hc, by rw [(view?_eq_some_iff.1 v6).2.2.1, hq]; rfl⟩

end Machine

end Content

end ChapterAssembly
