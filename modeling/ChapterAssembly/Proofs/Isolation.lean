/-
**Runs do not disturb each other.**

All runs of a machine share a pool of slots, and a journal with the rules read so far.  Neither
shows in what comes of a job: a run whose token does not fire, and whose pages can be fetched, comes
to the end that it comes to on a machine of its own, with the same requests and the same calls,
whatever the others do before or meanwhile, whether they fail, or are cancelled, or leave tasks
behind that still hold slots.

Main definitions:

* `Outside.Serves` — the world answers a run on the way of some actions;
* `Job.course` — the points of the course of a run that does a job;
* `Served` — a path on which the world serves a run, and `View.Partway` — how far its tasks are
  when they arrive one after the other;
* `DoneAlone` — a job is done on a machine that does nothing else;
* `Undisturbed` — what is promised of a run in company.

Main results:

* `Machine.Path.onCourse` — a run that is not cancelled goes along its course;
* `Machine.exists_settled` — alone, a run can go as far along its course as there is to go;
* `Machine.Path.undisturbed` — **runs do not disturb each other**.
-/

import ChapterAssembly.Proofs.Course
import ChapterAssembly.Proofs.Run.Queue

set_option relaxedAutoImplicit false
set_option autoImplicit false

namespace ChapterAssembly

namespace Content

variable {o : Outside} {job : Job} {first : Extracted} {r i l : Nat} {v v' : View} {a : Action}
  {m n k : Machine} {acts : List Action}

/-! ### Runs that the world answers -/

/-- The world answers run `r` on the way of some actions, and lets its tasks live. -/
def Outside.Serves (o : Outside) (m : Machine) (r : Nat) (acts : List Action) : Prop :=
  ∀ k a v, m.Takes acts k a → k.view? r = some v → o.Answers r v a

theorem Outside.serves_nil : o.Serves m r [] := by
  rintro k a v ⟨before, after, h, -⟩
  simp at h

theorem Outside.Serves.snoc (h : o.Serves m r acts) (hp : m.Path acts n)
    (hv : n.view? r = some v) (ha : o.Answers r v a) : o.Serves m r (acts ++ [a]) := by
  intro k b w ht hw
  rcases ht.of_snoc hp with ht | ⟨rfl, rfl⟩
  · exact h k b w ht hw
  · exact Option.some.inj (hv.symm.trans hw) ▸ ha

/-! ### Points of the course -/

/-- The points of the course of a run that does a job. -/
def Job.course (job : Job) (o : Outside) (l : Nat) : Course := (Course.next job o)^[l] {}

namespace Job

theorem iterate_course (job : Job) (o : Outside) (l l' : Nat) :
    (Course.next job o)^[l'] (job.course o l) = job.course o (l + l') := by
  rw [course, course, ← Function.iterate_add_apply, Nat.add_comm]

/-- **A course has one end at most.** -/
theorem course_eq_of_next_eq {l' : Nat} (h : (job.course o l).next job o = job.course o l)
    (h' : (job.course o l').next job o = job.course o l') : job.course o l = job.course o l' := by
  have hend : ∀ {l l'}, l ≤ l' → (job.course o l).next job o = job.course o l →
      job.course o l = job.course o l' := by
    intro l l' hle hnext
    obtain ⟨d, rfl⟩ := Nat.exists_eq_add_of_le hle
    rw [← iterate_course, Function.iterate_fixed hnext]
  rcases Nat.le_total l l' with hle | hle
  · exact hend hle h
  · exact (hend hle h').symm

end Job

/-- A run stands at a point of its course, or its tasks are on their way to the next one. -/
def View.OnCourse (job : Job) (o : Outside) (v : View) (l : Nat) : Prop :=
  v.Settled job (job.course o l) ∨ ∃ first, job.firstPage = .ok first ∧ 2 ≤ first.next.length ∧
    v.Scattered job o first (job.course o l)

theorem View.settled_fresh (job : Job) (o : Outside) (cancelled : Bool) :
    View.Settled job ⟨{ job }, cancelled, [], []⟩ (job.course o 0) where
  stage := rfl
  gathered := by simp [Job.course]
  fresh := fun _ => ⟨rfl, rfl⟩
  tasks := by simp
  requests := .rfl
  calls := rfl

/-- A run that is over stands at the end of its course. -/
theorem View.OnCourse.of_over (hi : v.OnCourse job o l) (hjob : v.run.job = job)
    (hover : v.run.isOver = true) :
    v.Settled job (job.course o l) ∧ (job.course o l).next job o = job.course o l := by
  rcases hi with hi | ⟨first, -, -, hi⟩
  · exact ⟨hi, hi.next_eq hjob hover⟩
  · simp [hi.not_isOver] at hover

theorem Move.onCourse (h : Move r v a v') (hi : v.OnCourse job o l) (hjob : v.run.job = job)
    (ht : v.run.Titled) (hc : v'.cancelled = false) (hs : o.Supplies job)
    (ho : o.Answers r v a) : ∃ l', v'.OnCourse job o l' := by
  rcases hi with hi | ⟨first, hfirst, htwo, hi⟩
  · obtain ⟨-, hi'⟩ | ⟨l', hi'⟩ | ⟨-, first, hfirst, htwo, hi'⟩ := h.of_settled hi hjob ht hc ho
    · exact ⟨l, .inl hi'⟩
    · exact ⟨l + (l' + 1), .inl (job.iterate_course o l (l' + 1) ▸ hi')⟩
    · exact ⟨l + 1, .inr ⟨first, hfirst, htwo, job.iterate_course o l 1 ▸ hi'⟩⟩
  · rcases h.of_scattered hi hjob hfirst htwo hc hs ho with hi' | hi'
    · exact ⟨l, .inr ⟨first, hfirst, htwo, hi'⟩⟩
    · exact ⟨l + 1, .inl (job.iterate_course o l 1 ▸ hi')⟩

namespace Machine

/-- **A run that is not cancelled goes along its course**, whatever the other runs do. -/
theorem Path.onCourse (hp : m.Path acts n) (hm : m.Fresh r job) (hs : o.Supplies job)
    (ho : o.Serves m r acts) (htoken : job.token ∉ n.fired) :
    ∃ v l, n.view? r = some v ∧ v.run.job = job ∧ v.OnCourse job o l := by
  -- a token that has not fired in the end has not fired before
  let I : List Action → View → Prop := fun _ v =>
    v.run.job = job ∧ v.run.Titled ∧ (v.cancelled = false → ∃ l, v.OnCourse job o l)
  obtain ⟨v, hv, hjob, -, hi⟩ := hp.view_induction (I := I) hm.view
    ⟨rfl, .inl rfl, fun _ => ⟨0, .inl (View.settled_fresh job o _)⟩⟩ (by
      rintro before k a v v' ht hv ⟨hjob, htitled, hi⟩ hmove
      refine ⟨hmove.job.trans hjob, hmove.titled htitled, fun hc => ?_⟩
      obtain ⟨l, hl⟩ := hi (hmove.active_of_active hc)
      exact hmove.onCourse hl hjob htitled hc hs (ho k a v ht hv))
  obtain ⟨l, hl⟩ := hi (by
    rw [← (view?_eq_some_iff.1 hv).2.1, isCancelled, hjob]
    simpa using htoken)
  exact ⟨v, l, hv, hjob, hl⟩

end Machine

/-! ### Going on -/

variable {c : Course} {url : Text}

/-- **A path on which the world serves a run**, up to a view in which the run is not cancelled. -/
structure Served (o : Outside) (job : Job) (m : Machine) (r : Nat) (acts : List Action)
    (n : Machine) (v : View) : Prop where
  path : m.Path acts n
  serves : o.Serves m r acts
  view : n.view? r = some v
  job_eq : v.run.job = job
  titled : v.run.Titled
  active : v.cancelled = false

theorem Served.move (h : Served o job m r acts n v) (hmove : Move r v a v')
    (ha : a.run? = some r) (hc : v'.cancelled = false) (ho : o.Answers r v a)
    (hpool : ∀ i fires, a = .launch r i fires → n.pool.holds (r, i) = true) :
    ∃ k, Served o job m r (acts ++ [a]) k v' ∧ k.pool = a.onPool n.pool := by
  obtain ⟨k, hs, hk⟩ := Machine.step_of_move h.view hmove ha hpool
  exact ⟨k, ⟨h.path.snoc hs, h.serves.snoc h.path h.view ho, hk, hmove.job.trans h.job_eq,
    hmove.titled h.titled, hc⟩, Machine.pool_of_step hs⟩

/-- **The first tasks of a run have been looked at, and the others have not started.** -/
structure View.Partway (first : Extracted) (i : Nat) (v : View) : Prop where
  lacking : ∀ text texts, v.run.stage = .spreading text texts → texts.all Option.isSome = false
  finished : v.run.finished = []
  done : ∀ (j : Nat) (t : Task), j < i → v.run.tasks[j]? = some t →
    ∃ outcome, t.state = .ended outcome
  ahead : ∀ (j : Nat) (url : Text), i ≤ j → first.next[j]? = some url →
    v.run.tasks[j]? = some ⟨url, .spawned⟩

/-- Tasks that have all been looked at have filled their slots. -/
theorem View.Partway.lt_length (hp : v.Partway first i) (hi : v.Scattered job o first c) :
    i < first.next.length := by
  obtain ⟨texts, hs, hslots⟩ := hi.stage
  by_contra hle
  have hall : texts.all Option.isSome = true := by
    refine List.all_eq_true.2 fun found hmem => ?_
    obtain ⟨j, hj⟩ := List.mem_iff_getElem?.1 hmem
    have hlt : j < v.run.tasks.length := by
      rw [hslots.length_tasks, ← hslots.length]
      exact (List.getElem?_eq_some_iff.1 hj).1
    have ht := List.getElem?_eq_getElem hlt
    obtain ⟨found', hj', hslot⟩ := hslots.slot j _ ht
    obtain rfl : found = found' := by simpa [hj] using hj'
    have hji : j < i := by
      rw [hslots.length_tasks] at hlt
      omega
    obtain ⟨outcome, hended⟩ := hp.done j _ hji ht
    rw [hended] at hslot
    cases hslot with
    | waiting _ hw => simp [hp.finished] at hw
    | filled => rfl
  simp [hp.lacking _ _ hs] at hall

/-- None of the tasks of a run has started when it has read its first page. -/
theorem View.partway_begun (hfirst : job.firstPage = .ok first) (htwo : 2 ≤ first.next.length)
    (cancelled : Bool) : View.Partway first 0 ⟨Run.begun { job } false, cancelled, [], []⟩ := by
  obtain ⟨body, hb⟩ := Job.exists_body_of_firstPage hfirst
  rw [Run.begun_of_firstPage hb hfirst, Run.spread_of_many _ _ htwo]
  refine ⟨?_, rfl, by simp, fun j url _ hurl => by simp [hurl]⟩
  intro text texts hs
  obtain ⟨-, rfl⟩ := Stage.spreading.inj hs
  obtain ⟨url, hurl⟩ := List.exists_mem_of_length_pos (l := first.next) (by omega)
  exact List.all_eq_false.2 ⟨none, List.mem_map.2 ⟨url, hurl, rfl⟩, by simp⟩

section

variable (hs : o.Supplies job) (hfirst : job.firstPage = .ok first) (htwo : 2 ≤ first.next.length)
include hs hfirst htwo

/-- A move that leaves a run waiting for its tasks leaves them on their way. -/
theorem Served.goOn (h : Served o job m r acts n v) (hi : v.Scattered job o first c)
    (hmove : Move r v a v') (ha : a.run? = some r) (hstage : v'.run.stage = v.run.stage)
    (hc : v'.cancelled = v.cancelled) (ho : o.Answers r v a)
    (hpool : ∀ i fires, a = .launch r i fires → n.pool.holds (r, i) = true) :
    ∃ k, Served o job m r (acts ++ [a]) k v' ∧ k.pool = a.onPool n.pool ∧
      v'.Scattered job o first c := by
  have hactive : v'.cancelled = false := hc.trans h.active
  obtain ⟨k, hk, hkpool⟩ := h.move hmove ha hactive ho hpool
  refine ⟨k, hk, hkpool, ?_⟩
  rcases hmove.of_scattered hi h.job_eq hfirst htwo hactive hs ho with hi' | hi'
  · exact hi'
  · -- a run that waits for tasks is not settled
    obtain ⟨texts, hspread, -⟩ := hi.stage
    have hcourse := hi'.stage.symm.trans (hstage.trans hspread)
    exact absurd hcourse (hi'.gathered _ _)

/-- The next task asks for a slot and requests its page. -/
theorem Served.request (h : Served o job m r acts n v) (hi : v.Scattered job o first c)
    (ht : v.run.tasks[i]? = some ⟨url, .spawned⟩) (hpool : n.pool.places = []) :
    ∃ more k v', Served o job m r (acts ++ more) k v' ∧ k.pool.places = [(r, i)] ∧
      v'.Scattered job o first c ∧ v'.run.finished = v.run.finished ∧
      (∀ j, v'.run.tasks[j]? = if i = j then some ⟨url, .fetching⟩ else v.run.tasks[j]?) := by
  have hholders : n.pool.holders = [] := (List.append_eq_nil_iff.1 hpool).1
  have hqueue : Move r v (.queue r i) { v with run := v.run.setTask i .queued } := .queue ht
  obtain ⟨k1, h1, hpool1, i1⟩ := h.goOn hs hfirst htwo hi hqueue rfl rfl rfl trivial (by simp)
  have ht1 : (v.run.setTask i .queued).tasks[i]? = some ⟨url, .queued⟩ := by
    simp [Run.setTask, ht]
  have hlaunch := @Move.launch r { v with run := v.run.setTask i .queued } i url false ht1
  obtain ⟨k2, h2, hpool2, i2⟩ := h1.goOn hs hfirst htwo i1 hlaunch rfl rfl (by simp) trivial (by
    rintro j fires ⟨⟩
    rw [hpool1]
    exact Pool.holds_enter _ _ hholders)
  refine ⟨_, k2, _, by simpa only [List.append_assoc] using h2, ?_, i2, rfl, fun j => ?_⟩
  · rw [hpool2, hpool1]
    exact (Pool.places_enter _ _).trans (by rw [hpool]; rfl)
  · simp only [Run.setTask, List.getElem?_modify]
    split
    · next hij =>
        subst hij
        simp [ht]
    · simp

/-- It is answered, and the run looks at it. -/
theorem Served.arrive (h : Served o job m r acts n v) (hi : v.Scattered job o first c)
    (ht : v.run.tasks[i]? = some ⟨url, .fetching⟩) (hurl : first.next[i]? = some url)
    (hfinished : v.run.finished = []) (hpool : n.pool.places = [(r, i)]) :
    ∃ more k v', Served o job m r (acts ++ more) k v' ∧ k.pool.places = [] ∧
      (v'.Scattered job o first c ∨ v'.Settled job (c.next job o)) ∧
      (∀ text texts, v'.run.stage = .spreading text texts →
        texts.all Option.isSome = false) ∧ v'.run.finished = [] ∧
      (∀ j, v'.run.tasks[j]? =
        if i = j then some ⟨url, .ended (.ok (o.textOf job first i))⟩ else v.run.tasks[j]?) := by
  obtain ⟨texts, hstage, -⟩ := hi.stage
  have hfound := hs.readReply hfirst htwo hurl
  obtain ⟨v1, m1, hrun1, hc1⟩ : ∃ v1, Move r v (.answer r i (o.fetch url) false) v1 ∧
      v1.run = v.run.endTask i (.ok (o.textOf job first i)) ∧ v1.cancelled = v.cancelled := by
    refine ⟨_, .answer ht, ?_, by simp⟩
    simp only [h.job_eq, hfound]
  have ho1 : o.Answers r v (.answer r i (o.fetch url) false) := by
    intro _ url' ht'
    obtain rfl : url = url' := by simpa [ht] using ht'
    rfl
  have hs1 : v1.run.stage = .spreading first.text texts := by rw [hrun1, ← hstage]; rfl
  obtain ⟨k1, h1, hpool1, i1⟩ :=
    h.goOn hs hfirst htwo hi m1 rfl (hs1.trans hstage.symm) hc1 ho1 (by simp)
  have ht1 : v1.run.tasks[i]? = some ⟨url, .ended (.ok (o.textOf job first i))⟩ := by
    simp [hrun1, Run.endTask, Run.setTask, ht]
  have hf1 : v1.run.finished = [i] := by simp [hrun1, Run.endTask, hfinished]
  -- the run looks at the task, and then waits on or has all its pages
  have hcollect : Move r v1 (.collect r) { v1 with run := v1.run.collect i first.text texts } :=
    .collect hs1 hf1 h1.active
  obtain ⟨k2, h2, hpool2⟩ := h1.move hcollect rfl h1.active trivial (by simp)
  refine ⟨_, k2, _, by simpa only [List.append_assoc] using h2, ?_,
    hcollect.of_scattered i1 h1.job_eq hfirst htwo h1.active hs trivial, ?_, ?_, fun j => ?_⟩
  · rw [hpool2, hpool1]
    exact (Pool.places_leave _ _).trans (by simp [hpool])
  · intro text texts' hs2
    simp only [Run.collect, ht1] at hs2
    split at hs2
    · cases hs2
    · next hall =>
        obtain ⟨-, rfl⟩ := Stage.spreading.inj hs2
        simpa using hall
  · simp [Run.collect, ht1, hf1]
  · have htasks : (v1.run.collect i first.text texts).tasks = v1.run.tasks := by
      simp [Run.collect, ht1]
    rw [htasks]
    split
    · next hij => exact hij ▸ ht1
    · next hij => simp [hrun1, Run.endTask, Run.setTask, hij]

/-- **One task after the other** fetches its page. -/
theorem Served.fetch (h : Served o job m r acts n v) (hi : v.Scattered job o first c)
    (hp : v.Partway first i) (hpool : n.pool.places = []) :
    ∃ more k v', Served o job m r (acts ++ more) k v' ∧ k.pool.places = [] ∧
      (v'.Settled job (c.next job o) ∨
        (v'.Scattered job o first c ∧ v'.Partway first (i + 1))) := by
  obtain ⟨url, hurl⟩ : ∃ url, first.next[i]? = some url :=
    ⟨_, List.getElem?_eq_getElem (hp.lt_length hi)⟩
  obtain ⟨more, k1, v1, h1, hpool1, hi1, hf1, ht1⟩ :=
    h.request hs hfirst htwo hi (hp.ahead i url (Nat.le_refl i) hurl) hpool
  obtain ⟨more', k2, v2, h2, hpool2, hi2, hlacking, hf2, ht2⟩ :=
    h1.arrive hs hfirst htwo hi1 (by simp [ht1]) hurl (hf1.trans hp.finished) hpool1
  refine ⟨more ++ more', k2, v2, by rwa [← List.append_assoc], hpool2,
    hi2.symm.imp_right fun hi2 => ⟨hi2, hlacking, hf2, ?_, ?_⟩⟩
  · intro j t hj ht
    rw [ht2, ht1] at ht
    split at ht
    · obtain rfl := Option.some.inj ht
      exact ⟨_, rfl⟩
    · exact hp.done j t (by omega) (by simpa using ht)
  · intro j url' hj hurl'
    rw [ht2, ht1, if_neg (by omega), if_neg (by omega)]
    exact hp.ahead j url' (by omega) hurl'

/-- **One after the other the tasks arrive.** -/
theorem Served.fetchAll (h : Served o job m r acts n v) (hi : v.Scattered job o first c)
    (hp : v.Partway first i) (hpool : n.pool.places = []) :
    ∃ more k v', Served o job m r (acts ++ more) k v' ∧ v'.Settled job (c.next job o) := by
  -- by induction on the number of tasks that are still ahead of the next one
  obtain ⟨d, hd⟩ := Nat.exists_eq_add_of_lt (hp.lt_length hi)
  induction d generalizing acts n v i with
  | zero =>
      obtain ⟨more, k, v', h', -, hi' | ⟨hi', hp'⟩⟩ := h.fetch hs hfirst htwo hi hp hpool
      · exact ⟨more, k, v', h', hi'⟩
      · have := hp'.lt_length hi'
        omega
  | succ d ih =>
      obtain ⟨more, k, v', h', hpool', hi' | ⟨hi', hp'⟩⟩ := h.fetch hs hfirst htwo hi hp hpool
      · exact ⟨more, k, v', h', hi'⟩
      · obtain ⟨more', k', v'', h'', hi''⟩ := ih h' hi' hp' hpool' (by omega)
        exact ⟨more ++ more', k', v'', by rwa [← List.append_assoc], hi''⟩

end

/-- A settled run that has begun goes on, unless it stands at the end of its course. -/
theorem View.Settled.exists_move (hi : v.Settled job c) (hjob : v.run.job = job)
    (hc : v.cancelled = false) (hfresh : v.run.stage ≠ .fresh) (r : Nat) :
    c.next job o = c ∨ ∃ a v', Move r v a v' ∧ a.run? = some r ∧ a ≠ .begin r ∧
      (∀ i fires, a ≠ .launch r i fires) ∧ v'.cancelled = false ∧ o.Answers r v a := by
  have hstage := hi.stage
  cases hs : v.run.stage with
  | fresh => exact absurd hs hfresh
  | asking w url =>
      exact .inr ⟨_, _, @Move.request r v w url false hs hc, rfl, by simp, by simp, rfl, trivial⟩
  | walking w url =>
      refine .inr ⟨_, _, @Move.reply r v w url (o.fetch url) false hs hc, rfl, by simp,
        by simp, rfl, ?_⟩
      intro _ w' url' hs'
      obtain ⟨-, rfl⟩ := Stage.walking.inj (hs.symm.trans hs')
      rfl
  | spreading text texts => exact absurd (hstage ▸ hs) (hi.gathered text texts)
  | gathered pages => exact .inr ⟨_, _, .gather hs hc, rfl, by simp, by simp, hc, trivial⟩
  | assembled pages =>
      cases hd : job.delivery? with
      | none => exact .inl (by simp [Course.next, hstage ▸ hs, hd])
      | some d =>
          exact .inr ⟨_, _, .deliver hs (hjob ▸ hd), rfl, by simp, by simp, hc, trivial⟩
  | saving s =>
      cases hstorage : o.storage v.calls with
      | error e =>
          exact .inr ⟨_, _, .refuse (e := e) (by rw [hs]; rfl), rfl, by simp, by simp, hc,
            fun _ => hstorage.symm⟩
      | ok u =>
          cases hchanged : s.changed with
          | true =>
              exact .inr ⟨_, _, .update hs hchanged, rfl, by simp, by simp, hc,
                fun _ => hstorage.symm⟩
          | false =>
              exact .inr ⟨_, _, .finish (.inl ⟨hs, hchanged⟩), rfl, by simp, by simp, hc,
                fun _ => hstorage.symm⟩
  | updating s =>
      cases hstorage : o.storage v.calls with
      | error e =>
          exact .inr ⟨_, _, .refuse (e := e) (by rw [hs]; rfl), rfl, by simp, by simp, hc,
            fun _ => hstorage.symm⟩
      | ok u =>
          exact .inr ⟨_, _, .finish (.inr hs), rfl, by simp, by simp, hc,
            fun _ => hstorage.symm⟩
  | ended outcome => exact .inl (by simp [Course.next, hstage ▸ hs])

/-! ### Alone -/

namespace Machine

/-- Alone, a run reads its first page, and its tasks arrive if it has any. -/
theorem exists_begun (hs : o.Supplies job) (s : Nat) :
    ∃ acts n v l, 1 ≤ l ∧ Served o job (ofJobs (.ofSize s) [job]) 0 acts n v ∧
      v.Settled job (job.course o l) ∧ v.run.stage ≠ .fresh := by
  have hm : (ofJobs (.ofSize s) [job]).Fresh 0 job := fresh_ofJobs rfl _
  have h0 : Served o job (ofJobs (.ofSize s) [job]) 0 [] (ofJobs (.ofSize s) [job])
      ⟨{ job }, false, [], []⟩ :=
    ⟨.nil, Outside.serves_nil, hm.view, rfl, .inl rfl, rfl⟩
  have hmove : Move 0 ⟨{ job }, false, [], []⟩ (.begin 0)
      ⟨Run.begun { job } false, false, [], []⟩ := .begin rfl
  obtain ⟨k, h1, hpool⟩ := h0.move hmove rfl rfl trivial (by simp)
  have hfresh : (Run.begun { job } false).stage ≠ .fresh := Run.begun_not_fresh _ _
  obtain ⟨ha, -⟩ | ⟨l, hi⟩ | ⟨-, first, hfirst, htwo, hi⟩ :=
    hmove.of_settled (View.settled_fresh job o false) rfl (.inl rfl) rfl (o := o) trivial
  · exact absurd rfl ha
  · refine ⟨_, k, _, 0 + (l + 1), by omega, h1, ?_, hfresh⟩
    rwa [job.iterate_course] at hi
  · obtain ⟨more, k', v', h', hi'⟩ := h1.fetchAll hs hfirst htwo hi
      (View.partway_begun hfirst htwo false) (by rw [hpool]; rfl)
    refine ⟨_, k', v', 0 + 2, by omega, h', ?_, ?_⟩
    · rw [← job.iterate_course]
      exact hi'
    · rw [hi'.stage, hi.next_eq hfirst]
      simp

/-- **Alone, a run goes along its course as far as one likes**, or to its end. -/
theorem exists_settled (hs : o.Supplies job) (s j : Nat) :
    ∃ acts n v l, j ≤ l ∧ Served o job (ofJobs (.ofSize s) [job]) 0 acts n v ∧
      v.Settled job (job.course o l) ∧ v.run.stage ≠ .fresh := by
  induction j with
  | zero =>
      obtain ⟨acts, n, v, l, -, h⟩ := exists_begun hs s
      exact ⟨acts, n, v, l, Nat.zero_le l, h⟩
  | succ j ih =>
      obtain ⟨acts, n, v, l, hl, h, hi, hfresh⟩ := ih
      rcases hi.exists_move (o := o) h.job_eq h.active hfresh 0 with
        hend | ⟨a, v', hmove, ha, hbegin, hlaunch, hc, ho⟩
      · -- at the end of a course one more point is the same point
        refine ⟨acts, n, v, l + 1, by omega, h, ?_, hfresh⟩
        rw [← job.iterate_course, Function.iterate_one, hend]
        exact hi
      · obtain ⟨k, h', -⟩ := h.move hmove ha hc ho fun i fires heq => absurd heq (hlaunch i fires)
        obtain ⟨hne, -⟩ | ⟨l', hi'⟩ | ⟨heq, -⟩ := hmove.of_settled hi h.job_eq h.titled hc ho
        · exact absurd ha hne
        · refine ⟨_, k, v', l + (l' + 1), by omega, h', ?_, fun hs => hfresh (hmove.of_fresh hs).1⟩
          rwa [← job.iterate_course]
        · exact absurd heq hbegin

end Machine

/-- **A job is done alone**: on a machine with a pool of its own, which does nothing else. -/
structure DoneAlone (o : Outside) (job : Job) (size : Nat) (acts : List Action) (n : Machine)
    (run : Run) : Prop where
  path : (Machine.ofJobs (.ofSize size) [job]).Path acts n
  serves : o.Serves (Machine.ofJobs (.ofSize size) [job]) 0 acts
  active : job.token ∉ n.fired
  at_end : n.runs[0]? = some run
  done : run.isOver = true

/-- **What is promised of a run in company** that is over. -/
structure Undisturbed (o : Outside) (job : Job) (size : Nat) (n : Machine) (r : Nat) (run : Run) :
    Prop where
  /-- The job can be done alone. -/
  can_be_alone : ∃ acts k run', DoneAlone o job size acts k run'
  /-- Whenever it is, it comes to the same end, with the same text or the same error, -/
  stage : ∀ acts k run', DoneAlone o job size acts k run' → run.stage = run'.stage
  /-- and makes the same requests, each as often, -/
  requests : ∀ acts k run', DoneAlone o job size acts k run' →
    (n.requestsOf r).Perm (k.requestsOf 0)
  /-- and the same calls in the same order. -/
  calls : ∀ acts k run', DoneAlone o job size acts k run' → n.callsOf r = k.callsOf 0

/-- **Runs do not disturb each other**: a run whose pages can be fetched, and whose token does not
fire, comes to the end that it comes to alone, whatever the others do and have done. -/
theorem Machine.Path.undisturbed (hm : m.Fresh r job) (hs : o.Supplies job)
    (ho : o.Serves m r acts) (hp : m.Path acts n) (htoken : job.token ∉ n.fired) (size : Nat) :
    ∃ run, n.runs[r]? = some run ∧ (run.isOver = true → Undisturbed o job size n r run) := by
  obtain ⟨v, l, hv, hjob, hi⟩ := hp.onCourse hm hs ho htoken
  obtain ⟨hr, -, hq, hcalls⟩ := view?_eq_some_iff.1 hv
  refine ⟨v.run, hr, fun hover => ?_⟩
  obtain ⟨hi, hend⟩ := hi.of_over hjob hover
  -- whoever does the job alone ends at the same point of the course
  have hsame : ∀ {acts k run'}, DoneAlone o job size acts k run' →
      ∃ v', k.view? 0 = some v' ∧ v'.run = run' ∧ v'.Settled job (job.course o l) := by
    intro acts k run' h
    obtain ⟨v', l', hv', hjob', hi'⟩ := h.path.onCourse (fresh_ofJobs rfl _) hs h.serves h.active
    obtain rfl := Option.some.inj ((view?_eq_some_iff.1 hv').1.symm.trans h.at_end)
    obtain ⟨hi', hend'⟩ := hi'.of_over hjob' h.done
    exact ⟨v', hv', rfl, Job.course_eq_of_next_eq hend hend' ▸ hi'⟩
  constructor
  case can_be_alone =>
    -- a run alone gets as far as this one, and no farther, since this one is at the end
    obtain ⟨acts, k, v', l', hl, h, hi', -⟩ := exists_settled hs size l
    obtain ⟨d, rfl⟩ := Nat.exists_eq_add_of_le hl
    rw [← job.iterate_course, Function.iterate_fixed hend] at hi'
    obtain ⟨hr', hc', -⟩ := view?_eq_some_iff.1 h.view
    refine ⟨acts, k, v'.run, h.path, h.serves, ?_, hr', ?_⟩
    · rw [h.active, isCancelled, h.job_eq] at hc'
      simpa using hc'
    · rw [← hover]
      simp only [Run.isOver, hi'.stage, hi.stage, h.job_eq, hjob]
  case stage =>
    intro acts k run' h
    obtain ⟨v', -, rfl, hi'⟩ := hsame h
    exact hi.stage.trans hi'.stage.symm
  case requests =>
    intro acts k run' h
    obtain ⟨v', hv', -, hi'⟩ := hsame h
    rw [hq, (view?_eq_some_iff.1 hv').2.2.1]
    exact hi.requests.trans hi'.requests.symm
  case calls =>
    intro acts k run' h
    obtain ⟨v', hv', -, hi'⟩ := hsame h
    rw [hcalls, (view?_eq_some_iff.1 hv').2.2.2, hi.calls, hi'.calls]

/-! ### A run beside one that was cancelled -/

/-- A world in which both pages of the twofold chapter can be fetched. -/
def Outside.twofold : Outside where
  fetch url := .ok (twofoldPage (if url = ['v'] then 0 else 1))
  storage _ := .ok ()

theorem Outside.supplies_twofold : Outside.twofold.Supplies Job.twofold :=
  fun _ _ _ _ _ => ⟨_, _, rfl, rfl⟩

/-- A machine on which a run is still to begin.  Another one was cancelled, but a task of it has
not let go of one of the two slots. -/
def Machine.besideCancelled : Machine where
  runs := [{ job := Job.twofold },
    { job := { Job.twofold with token := 1 }
      stage := .ended (.error .cancelled)
      tasks := [⟨['v'], .stopping⟩, ⟨['w'], .stopped⟩] }]
  pool := (Pool.ofSize 2).enter (1, 0)
  fired := [1]
  requests := [(⟨1, some 0⟩, ⟨['v'], Job.twofold.source.headers⟩)]

theorem Machine.fresh_besideCancelled : besideCancelled.Fresh 0 Job.twofold where
  run := rfl
  requests := rfl
  calls := rfl

/-- The run has the other slot to itself, and all its pages in the end. -/
theorem Machine.undisturbed_twofold : ∃ acts n run,
    besideCancelled.Path acts n ∧ n.runs[0]? = some run ∧
      run.stage = .assembled ⟨[Job.twofoldFirst.text, twofoldText 0, twofoldText 1]⟩ ∧
      Undisturbed Outside.twofold Job.twofold 1 n 0 run := by
  have h0 : Served Outside.twofold Job.twofold besideCancelled 0 [] besideCancelled
      ⟨{ job := Job.twofold }, false, [], []⟩ :=
    ⟨.nil, Outside.serves_nil, fresh_besideCancelled.view, rfl, .inl rfl, rfl⟩
  have hbegin : Move 0 ⟨{ job := Job.twofold }, false, [], []⟩ (.begin 0) ⟨_, false, [], []⟩ :=
    .begin rfl
  rw [Run.begun_of_firstPage rfl Job.firstPage_twofold] at hbegin
  obtain ⟨_, h1, -⟩ := h0.move hbegin rfl rfl trivial (by simp)
  obtain ⟨_, h2, -⟩ := h1.move (a := .queue 0 1) (.queue rfl) rfl rfl trivial (by simp)
  obtain ⟨_, h3, -⟩ := h2.move (a := .queue 0 0) (.queue rfl) rfl rfl trivial (by simp)
  obtain ⟨_, h4, -⟩ := h3.move (a := .launch 0 1 false) (.launch rfl) rfl rfl trivial (by
    rintro i fires ⟨⟩
    rw [h3.path.pool]
    rfl)
  obtain ⟨_, h5, -⟩ := h4.move (a := .answer 0 1 (.ok (twofoldPage 1)) false)
    (.answer_of_reads rfl (Job.reads_twofold 1)) rfl rfl (by rintro - url ⟨⟩; rfl) (by simp)
  obtain ⟨_, h6, -⟩ := h5.move (a := .launch 0 0 false) (.launch rfl) rfl rfl trivial (by
    rintro i fires ⟨⟩
    rw [h5.path.pool]
    rfl)
  obtain ⟨_, h7, -⟩ := h6.move (a := .answer 0 0 (.ok (twofoldPage 0)) false)
    (.answer_of_reads rfl (Job.reads_twofold 0)) rfl rfl (by rintro - url ⟨⟩; rfl) (by simp)
  obtain ⟨_, h8, -⟩ := h7.move (.collect rfl rfl rfl) rfl rfl trivial (by simp)
  obtain ⟨_, h9, -⟩ := h8.move (.collect rfl rfl rfl) rfl rfl trivial (by simp)
  obtain ⟨n, h10, -⟩ := h9.move (.gather rfl rfl) rfl rfl trivial (by simp)
  obtain ⟨hr', hc, -⟩ := view?_eq_some_iff.1 h10.view
  obtain ⟨run, hr, h⟩ := Machine.Path.undisturbed fresh_besideCancelled Outside.supplies_twofold
    h10.serves h10.path (by simpa [isCancelled] using hc) 1
  obtain rfl := Option.some.inj (hr.symm.trans hr')
  exact ⟨_, n, _, h10.path, hr, rfl, h rfl⟩

end Content

end ChapterAssembly
