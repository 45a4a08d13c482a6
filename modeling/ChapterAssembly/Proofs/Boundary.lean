/-
**Where a chapter ends.**

A job may know where the next chapter begins.  A walk does not request that page.  Pages that are
fetched side by side are requested as the first page names them, so that a run requests the next
chapter just if its first page names it among several pages.  What is requested is all that a run
looks at: if a redirect leads it into the next chapter, it takes in the page that it finds there.

Main definitions:

* `Walk.StopsAt`, `Stage.StopsAt` — a walk does not go to a URL;
* `View.Avoids` — nothing of a run leads to a URL.

Main results:

* `Move.avoids` — every move of a run keeps away from the next chapter;
* `Machine.exists_request` — every page that is named among several is requested in some run;
* `Machine.exists_redirected` — a walk takes in the page that comes, wherever that stands;
* `Machine.requests_apart_iff` — **when a run does not request the next chapter**;
* `Machine.enters_next_chapter` — the text of the next chapter becomes part of this one.
-/

import ChapterAssembly.Proofs.FanOut
import ChapterAssembly.Proofs.Run.Queue
import ChapterAssembly.Proofs.Walk

set_option relaxedAutoImplicit false
set_option autoImplicit false

namespace ChapterAssembly

namespace Content

/-! ### Walks that stop -/

/-- A walk takes a URL for that of the next chapter. -/
def Walk.StopsAt (w : Walk) (url : Text) : Prop :=
  w.nextChapter = (some url).filter fun u => !u.isEmpty

/-- A run in this stage is on no walk, or on one that stops at a URL and does not ask for it. -/
def Stage.StopsAt (url : Text) : Stage → Prop
  | .asking w next => w.StopsAt url ∧ next ≠ url
  | .walking w _ => w.StopsAt url
  | _ => True

variable {job : Job} {link url : Text} {w : Walk} {r : Nat} {v v' : View} {a : Action}

/-- **A walk that stops at a URL does not go there.** -/
theorem Walk.StopsAt.target?_ne (h : w.StopsAt url) (candidate : Text) :
    w.target? candidate ≠ some url := by
  intro htarget
  simp only [target?] at htarget
  split at htarget
  · cases htarget
  · next hgo =>
      obtain rfl : Url.absolute w.base candidate = url := by simpa using htarget
      simp only [Bool.or_eq_true, not_or, List.isEmpty_iff] at hgo
      refine hgo.2 ?_
      rw [h, Option.filter_some]
      simp [hgo.1.1]

theorem Walk.stopsAt_start (job : Job) (h : job.nextChapter = some link) (text : Text) :
    (Walk.start (Url.pageBase job.first.finalUrl) job.first.finalUrl job.nextChapter text).StopsAt
      (job.resolve link) := by
  simp only [StopsAt, start, h, Option.map_some]
  rfl

/-- A stage that is no part of a walk stops anywhere. -/
theorem Stage.StopsAt.of_ends {stage : Stage}
    (h : stage.stores = true ∨ ∃ outcome, stage = .ended outcome) : stage.StopsAt url := by
  rcases h with h | ⟨outcome, rfl⟩
  · cases stage <;> simp_all [Stage.stores, Stage.StopsAt]
  · trivial

namespace Run

variable (run : Run)

theorem stopsAt_wentOn (h : w.StopsAt url) (candidate : Text) :
    (run.wentOn w candidate).stage.StopsAt url := by
  unfold wentOn
  split
  · trivial
  · next next hnext =>
      refine ⟨h, ?_⟩
      rintro rfl
      exact h.target?_ne candidate hnext

theorem stopsAt_walked (h : w.StopsAt url) (cancelled : Bool)
    (found : Except ContentError Extracted) :
    (run.walked cancelled w found).stage.StopsAt url := by
  unfold walked
  split
  · trivial
  · split
    · trivial
    · split
      · exact run.stopsAt_wentOn (w := w.push _) h _
      · trivial

theorem stopsAt_begun (h : run.job.nextChapter = some link) (cancelled : Bool) :
    (run.begun cancelled).stage.StopsAt (run.job.resolve link) := by
  obtain ⟨title, e, hb⟩ | ⟨title, page, -, -, hb⟩ := run.begun_cases cancelled
  · rw [hb]
    trivial
  · rw [hb]
    unfold spread
    split
    · trivial
    · exact stopsAt_wentOn _ (Walk.stopsAt_start run.job h page.text) _
    · trivial

theorem stopsAt_collect {first : Text} {texts : List (Option Text)}
    (hs : run.stage = .spreading first texts) (i : Nat) :
    (run.collect i first texts).stage.StopsAt url := by
  unfold collect
  split
  · simp only
    split <;> trivial
  · trivial
  · rw [hs]
    trivial

/-- The tasks of a run that has begun fetch the pages that its first page names, if these are
several. -/
theorem mem_tasks_begun {cancelled : Bool} {t : Task} (h : t ∈ (run.begun cancelled).tasks) :
    (∃ u ∈ run.tasks, u.url = t.url) ∨
      ∃ first, run.job.firstPage = .ok first ∧ 2 ≤ first.next.length ∧ t.url ∈ first.next := by
  obtain ⟨title, e, hb⟩ | ⟨title, page, -, hf, hb⟩ := run.begun_cases cancelled
  · rw [hb] at h
    obtain ⟨u, hu, rfl⟩ := List.mem_map.1 h
    exact .inl ⟨u, hu, rfl⟩
  · rw [hb] at h
    match hnext : page.next with
    | [] =>
        rw [hnext] at h
        exact .inl ⟨t, h, rfl⟩
    | [candidate] =>
        rw [hnext] at h
        exact .inl ⟨t, by simpa [spread] using h, rfl⟩
    | _ :: _ :: _ =>
        have htwo : 2 ≤ page.next.length := by simp [hnext]
        rw [spread_of_many _ _ htwo] at h
        obtain ⟨url, hurl, rfl⟩ := List.mem_map.1 h
        exact .inr ⟨page, hf, htwo, hurl⟩

end Run

/-! ### Runs that keep away from a URL -/

/-- **Nothing of a run leads to a URL**: it was not requested, no task fetches it, and the walk does
not go there. -/
structure View.Avoids (v : View) (job : Job) (url : Text) : Prop where
  job_eq : v.run.job = job
  requests : ∀ q ∈ v.requests, q.2.url ≠ url
  tasks : ∀ t ∈ v.run.tasks, t.url ≠ url
  stage : v.run.stage.StopsAt url

/-- The stage of a run on its walk does not lead into the next chapter. -/
theorem Move.stopsAt (h : Move r v a v') (hl : v.run.job.nextChapter = some link)
    (hs : v.run.stage.StopsAt (v.run.job.resolve link)) :
    v'.run.stage.StopsAt (v.run.job.resolve link) := by
  cases h with
  | begin => exact v.run.stopsAt_begun hl _
  | request hs' =>
      rw [hs'] at hs
      exact hs.1
  | exchange hs' =>
      rw [hs'] at hs
      exact v.run.stopsAt_walked hs.1 _ _
  | reply hs' =>
      rw [hs'] at hs
      exact v.run.stopsAt_walked hs _ _
  | collect hs' => exact v.run.stopsAt_collect hs' _
  | deliver => exact .of_ends (Run.delivered_ends ..)
  | other | queue | launch | answer | die | drop => exact hs
  | _ => trivial

/-- No task of a run leads into the next chapter, unless the first page does. -/
theorem Move.tasks_ne (h : Move r v a v') (ht : ∀ t ∈ v.run.tasks, t.url ≠ url)
    (hfirst : ∀ first, v.run.job.firstPage = .ok first → 2 ≤ first.next.length →
      url ∉ first.next) : ∀ t ∈ v'.run.tasks, t.url ≠ url := by
  intro t hmem
  rcases h.tasks with hs | hs | ⟨rfl, -, -⟩ | ⟨i, url', s, s', hi, -, hs, -⟩
  · exact ht t (hs ▸ hmem)
  · obtain ⟨u, hu, rfl⟩ := List.mem_map.1 (hs ▸ hmem)
    exact ht u hu
  · cases h with
    | other ha => exact absurd rfl ha
    | begin =>
        obtain ⟨u, hu, heq⟩ | ⟨first, hf, htwo, hurl⟩ := v.run.mem_tasks_begun hmem
        · exact heq ▸ ht u hu
        · rintro rfl
          exact hfirst first hf htwo hurl
  · obtain ⟨j, hj⟩ := List.mem_iff_getElem?.1 (hs ▸ hmem)
    simp only [Run.setTask, List.getElem?_modify] at hj
    obtain ⟨u, hu, rfl⟩ := Option.map_eq_some_iff.1 hj
    have hu := ht u (List.mem_of_getElem? hu)
    split <;> exact hu

/-- **Every move of a run keeps away from the next chapter**, unless the first page leads there. -/
theorem Move.avoids (h : Move r v a v') (hi : v.Avoids job (job.resolve link))
    (hl : job.nextChapter = some link)
    (hfirst : ∀ first, job.firstPage = .ok first → 2 ≤ first.next.length →
      job.resolve link ∉ first.next) : v'.Avoids job (job.resolve link) := by
  obtain ⟨rfl, hrequests, htasks, hstage⟩ := hi
  refine ⟨h.job, ?_, h.tasks_ne htasks hfirst, h.stopsAt hl hstage⟩
  intro q hmem
  rcases h.requests with ⟨hq, -⟩ | ⟨w, url, hs, -, hq⟩ | ⟨i, url, fires, -, ht, hq⟩
  · exact hrequests q (hq ▸ hmem)
  · rcases List.mem_append.1 (hq ▸ hmem) with hmem | hmem
    · exact hrequests q hmem
    · rw [hs] at hstage
      obtain rfl := List.mem_singleton.1 hmem
      exact hstage.2
  · rcases List.mem_append.1 (hq ▸ hmem) with hmem | hmem
    · exact hrequests q hmem
    · obtain rfl := List.mem_singleton.1 hmem
      exact htasks _ (List.mem_of_getElem? ht)

/-! ### Every run -/

namespace Machine

variable {s : Nat} {jobs : List Job} {first : Extracted} {i : Nat}

/-- **Every page that is named among several can be requested first of all.** -/
theorem exists_request (hj : jobs[r]? = some job) (hfirst : job.firstPage = .ok first)
    (htwo : 2 ≤ first.next.length) (hurl : first.next[i]? = some url) :
    ∃ acts n, (ofJobs (.ofSize s) jobs).Path acts n ∧ n.requestsOf r = [job.requestFor i url] := by
  have hm := fresh_ofJobs hj (.ofSize s)
  obtain ⟨body, hb⟩ := Job.exists_body_of_firstPage hfirst
  have hbegin : Move r ⟨{ job }, false, [], []⟩ (.begin r) ⟨_, false, [], []⟩ := .begin rfl
  rw [Run.begun_of_firstPage hb hfirst, Run.spread_of_many _ _ htwo] at hbegin
  obtain ⟨_, p1, v1⟩ := Path.nil.move hm.view hbegin rfl (by simp)
  obtain ⟨_, p2, v2⟩ := p1.move (a := .queue r i) v1 (.queue (by simp [hurl]; rfl)) rfl (by simp)
  obtain ⟨n, p3, v3⟩ := p2.move (a := .launch r i false) v2
    (.launch (by simp [Run.setTask, hurl]; rfl)) rfl (by
      rintro i fires ⟨⟩
      rw [p2.pool]
      exact Pool.holds_enter _ _ rfl)
  exact ⟨_, n, p3, (view?_eq_some_iff.1 v3).2.2.1⟩

/-- **A walk takes in the page that comes**, whatever its address: also that of the next chapter,
if a redirect leads there from the URL that was requested. -/
theorem exists_redirected {candidate : Text} {page : FetchedPage} {found : Extracted}
    (hj : jobs[r]? = some job) (hfirst : job.firstPage = .ok first)
    (hnext : first.next = [candidate]) (hgoes : Chain.GoesTo job [] [first] url)
    (hread : readReply job.source.rules true url (.ok page) = .ok found)
    (hlast : found.next = []) :
    ∃ acts n run, (ofJobs (.ofSize s) jobs).Path acts n ∧ n.runs[r]? = some run ∧
      n.requestsOf r = [(none, ⟨url, job.source.headers⟩)] ∧
      run.stage = .assembled ⟨[first.text, found.text]⟩ := by
  obtain ⟨⟨_, _, hpage, hone, rfl⟩, hgo⟩ := hgoes
  obtain rfl : first = _ := by simpa using hpage
  obtain rfl : candidate = _ := by simpa [hnext] using hone
  have hm := fresh_ofJobs hj (.ofSize s)
  obtain ⟨body, hb⟩ := Job.exists_body_of_firstPage hfirst
  have hstart := Walk.Follows.start job first
  -- the walk asks for the page that the first one names
  have hbegin : Move r ⟨{ job }, false, [], []⟩ (.begin r) ⟨_, false, [], []⟩ := .begin rfl
  rw [Run.begun_of_firstPage hb hfirst, hnext] at hbegin
  simp only [Run.spread, Run.wentOn, hstart.target?_eq, hgo, or_self, if_false] at hbegin
  obtain ⟨_, p1, v1⟩ := Path.nil.move hm.view hbegin rfl (by simp)
  -- and ends with whatever page is the answer
  obtain ⟨n, p2, v2⟩ := p1.move (a := .exchange r (.ok page) false) v1 (.exchange rfl rfl) rfl
    (by simp)
  obtain ⟨hr, -, hq, -⟩ := view?_eq_some_iff.1 v2
  refine ⟨_, n, _, p2, hr, hq, ?_⟩
  simp only [hread, Run.walked, hlast, Bool.false_eq_true, if_false]
  exact congrArg (fun texts => Stage.assembled ⟨texts⟩) ((hstart.visit _).push found).pages

/-- **A run does not request the next chapter** as long as its first page does not name it among
several pages, whatever the other runs do and in whatever order things happen; if it does, the run
can request it. -/
theorem requests_apart_iff (hj : jobs[r]? = some job) (hl : job.nextChapter = some link) :
    (∀ acts n, (ofJobs (.ofSize s) jobs).Path acts n →
      ∀ q ∈ n.requestsOf r, q.2.url ≠ job.resolve link) ↔
    ∀ first, job.firstPage = .ok first → 2 ≤ first.next.length →
      job.resolve link ∉ first.next := by
  constructor
  · intro hapart first hfirst htwo hmem
    obtain ⟨i, hi⟩ := List.mem_iff_getElem?.1 hmem
    obtain ⟨acts, n, hp, hq⟩ := exists_request (s := s) hj hfirst htwo hi
    exact hapart acts n hp (job.requestFor i (job.resolve link)) (by simp [hq]) rfl
  · intro hfirst acts n hp q hq
    obtain ⟨v, hv, hi⟩ := hp.view_induction
      (I := fun _ v => v.Avoids job (job.resolve link)) (fresh_ofJobs hj (.ofSize s)).view
      ⟨rfl, by simp, by simp, trivial⟩
      fun before k a v v' _ _ hi hmove => hmove.avoids hi hl hfirst
    exact hi.requests q ((view?_eq_some_iff.1 hv).2.2.1 ▸ hq)

end Machine

/-! ### A next chapter that is named among several pages -/

/-- A job to read a page that names two others, of which the second is the next chapter. -/
def Job.bounded : Job := { Job.twofold with nextChapter := some ['w'] }

theorem Job.firstPage_bounded : Job.bounded.firstPage = .ok Job.twofoldFirst :=
  Job.firstPage_twofold

theorem Job.reads_bounded (i : Nat) : Job.bounded.Reads (twofoldPage i) (twofoldText i) :=
  Job.reads_twofold i

theorem Job.resolve_bounded : Job.bounded.resolve ['w'] = ['w'] := by decide +kernel

/-- It is no page of the chapter, but can be requested. -/
theorem Machine.not_requests_apart_bounded :
    Job.bounded.nextChapter = some ['w'] ∧
      ¬ ∀ acts n, (Machine.ofJobs (.ofSize 1) [Job.bounded]).Path acts n →
        ∀ q ∈ n.requestsOf 0, q.2.url ≠ Job.bounded.resolve ['w'] := by
  refine ⟨rfl, fun h => ?_⟩
  refine (@Machine.requests_apart_iff Job.bounded ['w'] 0 1 [Job.bounded] rfl rfl).1 h
    Job.twofoldFirst Job.firstPage_bounded (by decide) ?_
  rw [Job.resolve_bounded]
  decide

/-- **Its text becomes part of the chapter.** -/
theorem Machine.enters_next_chapter : ∃ acts n run,
    (Machine.ofJobs (.ofSize 1) [Job.bounded]).Path acts n ∧ n.runs[0]? = some run ∧
      Job.bounded.nextChapter = some ['w'] ∧
      Job.bounded.requestFor 1 (Job.bounded.resolve ['w']) ∈ n.requestsOf 0 ∧
      run.stage = .assembled ⟨[Job.twofoldFirst.text, twofoldText 0, twofoldText 1]⟩ := by
  obtain ⟨_, _, p1, v1⟩ := Machine.exists_launched Job.firstPage_bounded false
  obtain ⟨_, p2, v2⟩ := p1.move (a := .answer 0 0 (.ok (twofoldPage 0)) false) v1
    (.answer_of_reads rfl (Job.reads_bounded 0)) rfl (by simp)
  obtain ⟨_, p3, v3⟩ := p2.move (a := .launch 0 1 false) v2 (.launch rfl) rfl (by
    rintro i fires ⟨⟩
    rw [p2.pool]
    rfl)
  obtain ⟨_, p4, v4⟩ := p3.move (a := .answer 0 1 (.ok (twofoldPage 1)) false) v3
    (.answer_of_reads rfl (Job.reads_bounded 1)) rfl (by simp)
  obtain ⟨_, p5, v5⟩ := p4.move v4 (.collect rfl rfl rfl) rfl (by simp)
  obtain ⟨_, p6, v6⟩ := p5.move v5 (.collect rfl rfl rfl) rfl (by simp)
  obtain ⟨n, p7, v7⟩ := p6.move v6 (.gather rfl rfl) rfl (by simp)
  obtain ⟨hr, -, hq, -⟩ := Machine.view?_eq_some_iff.1 v7
  refine ⟨_, n, _, p7, hr, rfl, ?_, rfl⟩
  rw [Job.resolve_bounded, hq]
  exact List.mem_append_right _ (List.mem_singleton.2 rfl)

end Content

end ChapterAssembly
