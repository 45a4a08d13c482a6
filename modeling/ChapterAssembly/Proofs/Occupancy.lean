/-
**Slots are neither lost nor made.**

The tasks of all runs share one pool.  A task that has asked for a slot stands in its queue, holds
a slot while its request is out, and lets go of it in whatever way it ends: answered, refused, dead,
or told to stop while it fetches or still waits.

Main definitions:

* `Standing` — where a task stands with the pool, by its state;
* `Machine.Kept` — what holds of the pool and of all tasks;
* `SharesSlots` — what is promised of a pool that runs share.

Main results:

* `Kept.step` — every step keeps the pool and all tasks in order;
* `Kept.perm_holders` — those who hold a slot are tasks, each once;
* `Machine.Path.shares_slots` — **however many runs share a pool, slots are neither lost nor
  made**.
-/

import Mathlib.Data.List.Nodup
import ChapterAssembly.Proofs.FanOut
import ChapterAssembly.Proofs.Run.Queue

set_option relaxedAutoImplicit false
set_option autoImplicit false

namespace ChapterAssembly

namespace Content

/-! ### Where a task stands -/

/-- **Where a task stands with the pool**, by its state: whether it has asked for a slot, whether
its request was made, whether it holds a slot, whether it has a place at all, and whether it was
served or still waits. -/
inductive Standing (asked requested holds placed served : Prop) : Option TaskState → Prop
  | absent (ha : ¬ asked) (hr : ¬ requested) (hp : ¬ placed) :
      Standing asked requested holds placed served none
  | spawned (ha : ¬ asked) (hr : ¬ requested) (hp : ¬ placed) :
      Standing asked requested holds placed served (some .spawned)
  | queued (ha : asked) (hr : ¬ requested) (hp : placed) (hs : served) :
      Standing asked requested holds placed served (some .queued)
  | fetching (ha : asked) (hr : requested) (hh : holds) (hs : served) :
      Standing asked requested holds placed served (some .fetching)
  | ended {outcome : Except ContentError Text} (ha : asked) (hp : ¬ placed) (hs : served) :
      Standing asked requested holds placed served (some (.ended outcome))
  | stopping (hr : requested → holds) (ha : asked ↔ placed) (hs : asked → served) :
      Standing asked requested holds placed served (some .stopping)
  | stopped (hp : ¬ placed) : Standing asked requested holds placed served (some .stopped)

namespace Standing

variable {asked requested holds placed served : Prop} {s : TaskState} {state : Option TaskState}

/-- What happens to others leaves a task where it stands, or gives it the slot that it waits for. -/
theorem others {asked' requested' holds' placed' served' : Prop}
    (h : Standing asked requested holds placed served state) (ha : asked' ↔ asked)
    (hr : requested' ↔ requested) (hh : holds → holds') (hp : placed' ↔ placed)
    (hs : served → served') : Standing asked' requested' holds' placed' served' state := by
  rw [ha, hr, hp]
  cases h with
  | absent ha hr hp => exact .absent ha hr hp
  | spawned ha hr hp => exact .spawned ha hr hp
  | queued ha hr hp hs' => exact .queued ha hr hp (hs hs')
  | fetching ha hr hh' hs' => exact .fetching ha hr (hh hh') (hs hs')
  | ended ha hp hs' => exact .ended ha hp (hs hs')
  | stopping hr ha hs' => exact .stopping (fun h => hh (hr h)) ha fun h => hs (hs' h)
  | stopped hp => exact .stopped hp

/-- A task that is told to stop keeps its place until it lets go of it. -/
theorem stop (h : Standing asked requested holds placed served (some s))
    (hp : holds → placed) : Standing asked requested holds placed served (some s.stop) := by
  cases h with
  | spawned ha hr hp =>
      exact .stopping (fun h => absurd h hr) (by simp [ha, hp]) fun h => absurd h ha
  | queued ha hr hp hs => exact .stopping (fun h => absurd h hr) (by simp [ha, hp]) fun _ => hs
  | fetching ha hr hh hs => exact .stopping (fun _ => hh) (by simp [ha, hp hh]) fun _ => hs
  | ended ha hp hs => exact .ended ha hp hs
  | stopping hr ha hs => exact .stopping hr ha hs
  | stopped hp => exact .stopped hp

end Standing

/-! ### Runs with tasks -/

/-- A run has tasks only once it has begun with a first page that names several others. -/
def Run.TasksOfFan (run : Run) : Prop :=
  run.tasks = [] ∨ (run.stage ≠ .fresh ∧
    ∃ first, run.job.firstPage = .ok first ∧ 2 ≤ first.next.length)

theorem Run.TasksOfFan.of_fresh {run : Run} (h : run.TasksOfFan) (hs : run.stage = .fresh) :
    run.tasks = [] := by
  rcases h with h | ⟨hne, -⟩
  · exact h
  · exact absurd hs hne

theorem Move.tasksOfFan {r : Nat} {v v' : View} {a : Action} (h : Move r v a v')
    (ht : v.run.TasksOfFan) : v'.run.TasksOfFan := by
  rcases ht with ht | ⟨hs, hfan⟩
  · rcases h.tasks with ht' | ht' | ⟨rfl, hs, -⟩ | ⟨i, url, s, s', hi, -⟩
    · exact .inl (ht'.trans ht)
    · exact .inl (by rw [ht', ht]; rfl)
    · cases h with
      | other ha => exact absurd rfl ha
      | begin =>
          by_cases hfan : ∃ first, v.run.job.firstPage = .ok first ∧ 2 ≤ first.next.length
          · exact .inr ⟨Run.begun_not_fresh _ _, by simpa using hfan⟩
          · refine .inl (Run.begun_of_few v.run ht _ fun first hf => ?_).1
            by_contra hmany
            exact hfan ⟨first, hf, by omega⟩
    · simp [ht] at hi
  · exact .inr ⟨fun hs' => hs (h.of_fresh hs').1, by rwa [h.job]⟩

/-! ### All tasks of a machine -/

namespace Machine

variable {m n : Machine} {a : Action} {acts : List Action} {p : Nat × Nat} {r : Nat}

/-- The state of a task, given with its run. -/
def stateAt (m : Machine) (p : Nat × Nat) : Option TaskState :=
  (m.runs[p.1]?).bind fun run => run.stateAt p.2

/-- The request of a task has been made. -/
def hasRequested (m : Machine) (p : Nat × Nat) : Bool :=
  (m.requestsOf p.1).any fun q => q.1 == some p.2

/-- The tasks of all runs, each with its run. -/
def tasks (m : Machine) : List (Nat × Nat) :=
  (List.range m.runs.length).flatMap fun r =>
    (List.range ((m.runs[r]?).elim 0 (·.tasks.length))).map fun i => (r, i)

theorem mem_tasks : p ∈ m.tasks ↔ (m.stateAt p).isSome = true := by
  obtain ⟨r, i⟩ := p
  cases hr : m.runs[r]? with
  | none => simp [tasks, stateAt, hr]
  | some run =>
      have := (List.getElem?_eq_some_iff.1 hr).1
      simp [tasks, stateAt, Run.stateAt, this]

theorem nodup_tasks (m : Machine) : m.tasks.Nodup := by
  refine List.nodup_flatMap.2 ⟨fun r _ => ?_, ?_⟩
  · exact List.nodup_range.map fun i j h => (Prod.mk.inj h).2
  · refine List.nodup_range.imp fun hne => ?_
    rintro p hp hp'
    obtain ⟨i, -, rfl⟩ := List.mem_map.1 hp
    obtain ⟨j, -, heq⟩ := List.mem_map.1 hp'
    exact hne (Prod.mk.inj heq).1.symm

theorem stateAt_of_view {v : View} (hv : m.view? p.1 = some v) :
    m.stateAt p = v.run.stateAt p.2 := by
  simp [stateAt, (view?_eq_some_iff.1 hv).1]

theorem hasRequested_of_view {v : View} (hv : m.view? p.1 = some v) :
    m.hasRequested p = v.hasRequested p.2 := by
  rw [hasRequested, (view?_eq_some_iff.1 hv).2.2.1, View.hasRequested]

/-- **What a step does to a task**: its state takes a turn, and its request is made just if it is
launched. -/
theorem turn_of_step (h : m.step a = some n)
    (hfan : ∀ (r : Nat) (run : Run), m.runs[r]? = some run → run.TasksOfFan) (p : Nat × Nat) :
    Turn p.1 p.2 a (m.stateAt p) (n.stateAt p) ∧
      (n.hasRequested p = true ↔
        m.hasRequested p = true ∨ ∃ fires, a = .launch p.1 p.2 fires) := by
  cases hv : m.view? p.1 with
  | some v =>
      obtain ⟨v', hv', hmove⟩ := move_of_step h hv
      rw [stateAt_of_view hv, stateAt_of_view hv', hasRequested_of_view hv,
        hasRequested_of_view hv']
      have hr := (view?_eq_some_iff.1 hv).1
      exact ⟨hmove.turn (hfan p.1 v.run hr).of_fresh p.2, hmove.hasRequested p.2⟩
  | none =>
      have hr : m.runs[p.1]? = none := by simpa [view?] using hv
      have ha : a.run? ≠ some p.1 := by
        intro ha
        obtain ⟨run, hrun⟩ := exists_run_of_step h ha
        simp [hr] at hrun
      obtain ⟨hr', hq, -⟩ := frame h ha
      simp only [stateAt, hr', hr, hasRequested, hq, Option.bind_none]
      refine ⟨.stays (Action.task?_eq_none_of_run ha p.2), ?_⟩
      have hne : ∀ fires, a ≠ .launch p.1 p.2 fires := by
        rintro fires rfl
        exact ha rfl
      simp [hne]

/-! ### What every step keeps -/

/-- **What holds of the pool and of all tasks** after some actions. -/
structure Kept (acts : List Action) (m : Machine) : Prop where
  /-- Nobody has two places. -/
  nodup : m.pool.places.Nodup
  served : m.pool.served.Sublist (askers acts)
  once : (askers acts).Nodup
  fan : ∀ (r : Nat) (run : Run), m.runs[r]? = some run → run.TasksOfFan
  standing : ∀ p, Standing (p ∈ askers acts) (m.hasRequested p = true) (p ∈ m.pool.holders)
    (p ∈ m.pool.places) (p ∈ m.pool.served) (m.stateAt p)

/-- Where a task stands after an action that is not its own. -/
theorem Kept.standing_of_ne (hk : m.Kept acts) (h : m.step a = some n) (ha : a.task? ≠ some p) :
    Standing (p ∈ askers (acts ++ [a])) (n.hasRequested p = true) (p ∈ n.pool.holders)
      (p ∈ n.pool.places) (p ∈ n.pool.served) (n.stateAt p) := by
  obtain ⟨hturn, hr⟩ := turn_of_step h hk.fan p
  have hne : ∀ fires, a ≠ .launch p.1 p.2 fires := by
    rintro fires rfl
    exact ha rfl
  -- the pool may give the task a slot, but nothing else of it changes there
  have hold : Standing (p ∈ askers (acts ++ [a])) (n.hasRequested p = true) (p ∈ n.pool.holders)
      (p ∈ n.pool.places) (p ∈ n.pool.served) (m.stateAt p) := by
    rw [pool_of_step h]
    refine (hk.standing p).others ?_ ?_ (Action.mem_holders_onPool ha)
      (Action.mem_places_onPool ha) (Action.mem_served_onPool ha)
    · simp [askers_snoc, Action.asker?_of_task? ha]
    · simpa [hne] using hr
  generalize m.stateAt p = s at hturn hold
  generalize n.stateAt p = s' at hturn
  cases hturn with
  | stays => exact hold
  | stop => exact hold.stop (n.pool.mem_places_of_holders)
  | made =>
      cases hold with
      | absent ha hr hp => exact .spawned ha hr hp
  | goesOn hm => cases hm <;> exact absurd rfl ha

/-- Where a task stands after an action of its own. -/
theorem Kept.standing_of_eq (hk : m.Kept acts) (h : m.step a = some n) (ha : a.task? = some p) :
    Standing (p ∈ askers (acts ++ [a])) (n.hasRequested p = true) (p ∈ n.pool.holders)
      (p ∈ n.pool.places) (p ∈ n.pool.served) (n.stateAt p) := by
  obtain ⟨hturn, hr⟩ := turn_of_step h hk.fan p
  have hold := hk.standing p
  have hpool := pool_of_step h
  generalize m.stateAt p = s at hturn hold
  generalize n.stateAt p = s' at hturn
  rw [hpool, askers_snoc]
  obtain ⟨r, i⟩ := p
  cases hturn with
  | stays hne => exact absurd ha hne
  | stop hnone => simp [hnone] at ha
  | made hnone => simp [hnone] at ha
  | goesOn hm =>
      cases hm with
      | queue =>
          cases hold with
          | spawned hasked hreq hp =>
              refine .queued ?_ ?_ ?_ ?_
              · simp [Action.asker?]
              · simpa [hr] using hreq
              · simp [Action.onPool, Pool.places_enter]
              · simp [Action.onPool, Pool.served_enter]
      | launch fires =>
          cases hold with
          | queued hasked hreq hp hs =>
              obtain ⟨run, url, -, hh, -⟩ := step_launch_iff.1 h
              refine .fetching ?_ ?_ ?_ hs
              · simp [hasked]
              · simp [hr]
              · simpa [Action.onPool] using hh
      | answer | die =>
          cases hold with
          | fetching hasked hreq hh hs =>
              refine .ended ?_ (Pool.not_mem_leave hk.nodup) ?_
              · simp [hasked]
              · simp only [Action.onPool, Pool.served_leave, if_pos hh]
                exact hs
      | drop => exact .stopped (Pool.not_mem_leave hk.nodup)

/-- Whoever asks for a slot has not asked before, and has no place. -/
theorem Kept.asks_once (hk : m.Kept acts) (h : m.step a = some n) (ha : a.asker? = some p) :
    p ∉ askers acts ∧ p ∉ m.pool.places := by
  obtain ⟨r, i⟩ := p
  obtain rfl : a = .queue r i := by
    cases a <;> simp_all [Action.asker?]
  obtain ⟨run, url, ht, -⟩ := step_queue_iff.1 h
  obtain ⟨hr, hi⟩ := task?_eq_some_iff.1 ht
  have hstanding := hk.standing (r, i)
  rw [show m.stateAt (r, i) = some .spawned by simp [stateAt, hr, Run.stateAt, hi]] at hstanding
  cases hstanding with
  | spawned hasked _ hp => exact ⟨hasked, hp⟩

/-- **Every step keeps the pool and all tasks in order.** -/
theorem Kept.step (hk : m.Kept acts) (h : m.step a = some n) : n.Kept (acts ++ [a]) where
  nodup := by
    rw [pool_of_step h]
    exact Action.nodup_onPool hk.nodup fun p hp => (hk.asks_once h hp).2
  served := by
    rw [pool_of_step h, askers_snoc]
    exact Action.served_onPool hk.served
  once := by
    rw [askers_snoc, List.nodup_append]
    refine ⟨hk.once, by cases a.asker? <;> simp, ?_⟩
    rintro p hp _ hp' rfl
    exact (hk.asks_once h (by simpa using hp')).1 hp
  fan := by
    intro r run hr
    obtain ⟨v', hv', rfl⟩ : ∃ v', n.view? r = some v' ∧ v'.run = run := by simp [view?, hr]
    obtain ⟨v, hv, hmove⟩ := exists_view_of_step h hv'
    exact hmove.tasksOfFan (hk.fan r v.run (view?_eq_some_iff.1 hv).1)
  standing := by
    intro p
    by_cases ha : a.task? = some p
    · exact hk.standing_of_eq h ha
    · exact hk.standing_of_ne h ha

/-- Nothing has happened in a machine that is to do some jobs. -/
theorem kept_ofJobs (s : Nat) (jobs : List Job) : (ofJobs (.ofSize s) jobs).Kept [] where
  nodup := List.nodup_nil
  served := List.Sublist.refl _
  once := List.nodup_nil
  fan := by
    intro r run hr
    obtain ⟨job, -, rfl⟩ : ∃ job, jobs[r]? = some job ∧ { job } = run := by
      simpa [ofJobs] using hr
    exact .inl rfl
  standing := by
    intro p
    have hnone : (ofJobs (.ofSize s) jobs).stateAt p = none := by
      simp only [stateAt, ofJobs, List.getElem?_map]
      cases jobs[p.1]? <;> rfl
    rw [hnone]
    exact .absent (by simp [askers]) (by simp [hasRequested, requestsOf, ofJobs])
      (by simp [Pool.places, Pool.ofSize, ofJobs])

theorem Path.kept {s : Nat} {jobs : List Job} (hp : (ofJobs (.ofSize s) jobs).Path acts n) :
    n.Kept acts := by
  induction hp with
  | nil => exact kept_ofJobs s jobs
  | snoc _ h ih => exact ih.step h

end Machine
/-! ### Every run -/

/-- The request of a task in this state may be out. -/
def TaskState.isOut : TaskState → Bool
  | .fetching => true
  | .stopping => true
  | _ => false

/-- A task in this state has come to an end, in one way or the other. -/
def TaskState.isOver : TaskState → Bool
  | .ended _ => true
  | .stopped => true
  | _ => false

/-- The request of a task is out: it was made, and the task has not let go of it. -/
def Machine.inFlight (m : Machine) (p : Nat × Nat) : Bool :=
  m.hasRequested p && (m.stateAt p).any TaskState.isOut

/-- **What is promised of a pool that runs share**, at every moment. -/
structure SharesSlots (slots : Nat) (acts : List Action) (m : Machine) : Prop where
  /-- Free slots, and tasks that hold one, are as many as there are slots. -/
  conserved : m.pool.available + (m.tasks.filter m.pool.holds).length = slots
  /-- No task holds two. -/
  one_each : ∀ p, m.pool.holders.count p ≤ 1
  /-- A task holds a slot as long as its request is out, -/
  held : ∀ p, m.inFlight p = true → m.pool.holds p = true
  /-- so that no more requests of tasks are out than there are slots. -/
  in_flight_le : (m.tasks.filter m.inFlight).length ≤ slots
  /-- The tasks that got a slot, in the order in which they got it, and then those that wait, stand
  in the order in which they asked. -/
  in_order : (m.pool.granted.reverse ++ m.pool.waiting).Sublist (askers acts)
  /-- No task asks twice. -/
  asks_once : (askers acts).Nodup
  /-- None is passed over but one that was told to stop. -/
  passed_over : ∀ p ∈ askers acts, p ∈ m.pool.granted ∨ p ∈ m.pool.waiting ∨
    m.stateAt p = some .stopped
  /-- A task that is to fetch when it has a slot has got one, or waits for it, -/
  queued : ∀ p, m.stateAt p = some .queued → m.pool.holds p = true ∨ p ∈ m.pool.waiting
  /-- and waits only while all slots are held by others. -/
  waits : ∀ p ∈ m.pool.waiting, m.pool.holds p = false ∧ m.pool.available = 0
  /-- Once all tasks have come to an end, all slots are free. -/
  restored : (∀ p ∈ m.tasks, ∃ s, m.stateAt p = some s ∧ s.isOver = true) →
    m.pool.available = slots
  /-- Nobody has a place but the tasks of a run whose first page names several others. -/
  only_fans : ∀ p ∈ m.pool.places, ∃ run first, m.runs[p.1]? = some run ∧
    run.job.firstPage = .ok first ∧ 2 ≤ first.next.length
  /-- What a run does on its own, a walk included, leaves the pool as it is. -/
  untouched : ∀ a n, m.step a = some n → a.task? = none → n.pool = m.pool

namespace Machine

variable {m n : Machine} {acts : List Action} {slots : Nat}

theorem Path.pool_size (hp : m.Path acts n) : n.pool.size = m.pool.size := by
  induction hp with
  | nil => rfl
  | snoc _ h ih => rw [pool_of_step h, Action.onPool_size, ih]

namespace Kept

variable {p : Nat × Nat}

/-- Whoever has a place is a task that asked for one and has not let go of it. -/
theorem of_place (hk : m.Kept acts) (hp : p ∈ m.pool.places) :
    ∃ s, m.stateAt p = some s ∧ s.isOver = false := by
  have hstanding := hk.standing p
  generalize m.stateAt p = s at hstanding
  cases hstanding with
  | absent _ _ hnone | spawned _ _ hnone | ended _ hnone | stopped hnone => exact absurd hp hnone
  | queued | fetching | stopping => exact ⟨_, rfl, rfl⟩

/-- The tasks that hold a slot are all who hold one. -/
theorem perm_holders (hk : m.Kept acts) : (m.tasks.filter m.pool.holds).Perm m.pool.holders := by
  refine (List.perm_ext_iff_of_nodup (m.nodup_tasks.filter _) hk.nodup.of_append_left).2 fun p => ?_
  rw [List.mem_filter, mem_tasks, Pool.holds_iff]
  refine and_iff_right_of_imp fun hh => ?_
  obtain ⟨s, hs, -⟩ := hk.of_place (m.pool.mem_places_of_holders hh)
  rw [hs, Option.isSome_some]

/-- A task holds a slot as long as its request is out. -/
theorem holds_of_inFlight (hk : m.Kept acts) (hp : m.inFlight p = true) :
    m.pool.holds p = true := by
  obtain ⟨hr, hout⟩ := Bool.and_eq_true_iff.1 hp
  have hstanding := hk.standing p
  rw [Pool.holds_iff]
  generalize m.stateAt p = s at hstanding hout
  cases hstanding with
  | fetching _ _ hh => exact hh
  | stopping hh => exact hh hr
  | _ => cases hout

theorem sharesSlots (hk : m.Kept acts) (hsize : m.pool.size = slots) :
    SharesSlots slots acts m := by
  have hconserved : m.pool.available + (m.tasks.filter m.pool.holds).length = slots := by
    rw [hk.perm_holders.length_eq, Pool.available_add_holders, hsize]
  constructor
  case conserved => exact hconserved
  case one_each => exact List.nodup_iff_count_le_one.1 hk.nodup.of_append_left
  case held => exact fun p => hk.holds_of_inFlight
  case in_flight_le =>
    have hle : m.tasks.countP m.inFlight ≤ m.tasks.countP m.pool.holds :=
      List.countP_mono_left fun p _ => hk.holds_of_inFlight
    simp only [List.countP_eq_length_filter] at hle
    omega
  case in_order => exact hk.served
  case asks_once => exact hk.once
  case passed_over =>
    intro p hp
    have hserved : p ∈ m.pool.served → p ∈ m.pool.granted ∨ p ∈ m.pool.waiting := by
      simp [Pool.served]
    have hstanding := hk.standing p
    generalize m.stateAt p = s at hstanding
    cases hstanding with
    | absent ha | spawned ha => exact absurd hp ha
    | queued _ _ _ hs | fetching _ _ _ hs | ended _ _ hs => exact (hserved hs).imp_right .inl
    | stopping _ _ hs => exact (hserved (hs hp)).imp_right .inl
    | stopped => exact .inr (.inr rfl)
  case queued =>
    intro p hp
    have hstanding := hk.standing p
    rw [hp] at hstanding
    cases hstanding with
    | queued _ _ hplace => exact (List.mem_append.1 hplace).imp_left (m.pool.holds_iff p).2
  case waits =>
    intro p hw
    refine ⟨?_, ?_⟩
    · rw [Bool.eq_false_iff, ne_eq, Pool.holds_iff]
      exact fun hh => (List.nodup_append.1 hk.nodup).2.2 p hh p hw rfl
    · rw [Pool.available, m.pool.full_of_waiting (List.ne_nil_of_mem hw), Nat.sub_self]
  case restored =>
    intro hover
    have hnone : m.tasks.filter m.pool.holds = [] := by
      refine List.filter_eq_nil_iff.2 fun p hp hh => ?_
      obtain ⟨s, hs, hsover⟩ := hover p hp
      obtain ⟨s', hs', hnot⟩ :=
        hk.of_place (m.pool.mem_places_of_holders ((Pool.holds_iff ..).1 hh))
      obtain rfl : s = s' := by simpa [hs] using hs'
      simp [hsover] at hnot
    simpa [hnone] using hconserved
  case only_fans =>
    intro p hp
    obtain ⟨s, hs, -⟩ := hk.of_place hp
    obtain ⟨run, hr, hi⟩ := Option.bind_eq_some_iff.1 hs
    rcases hk.fan p.1 run hr with hnone | ⟨-, first, hf, htwo⟩
    · simp [Run.stateAt, hnone] at hi
    · exact ⟨run, first, hr, hf, htwo⟩
  case untouched =>
    intro a n h ha
    rw [pool_of_step h]
    cases a <;> simp_all [Action.task?, Action.onPool]

end Kept

/-- **However many runs share a pool, and whatever happens to them, slots are neither lost nor
made.** -/
theorem Path.shares_slots {s : Nat} {jobs : List Job} (hp : (ofJobs (.ofSize s) jobs).Path acts n) :
    SharesSlots (max s 1) acts n :=
  hp.kept.sharesSlots hp.pool_size

end Machine

/-- Two tasks share one slot.  The run is cancelled while one of them fetches and the other one
waits; both let go, the one that waits first, and the slot is free again. -/
theorem Machine.shares_slots_twofold : ∃ acts n,
    (Machine.ofJobs (.ofSize 1) [Job.twofold]).Path acts n ∧
      askers acts = [(0, 0), (0, 1)] ∧ n.pool.granted = [(0, 0)] ∧ n.pool.available = 1 ∧
      SharesSlots (max 1 1) acts n := by
  obtain ⟨_, _, p1, v1⟩ := Machine.exists_launched Job.firstPage_twofold true
  obtain ⟨_, p2, v2⟩ := p1.move (a := .notice 0) v1 (.notice rfl rfl) rfl (by simp)
  obtain ⟨_, p3, v3⟩ := p2.move (a := .drop 0 1) v2 (.drop rfl) rfl (by simp)
  obtain ⟨n, p4, v4⟩ := p3.move (a := .drop 0 0) v3 (.drop rfl) rfl (by simp)
  refine ⟨_, n, p4, rfl, ?_, ?_, p4.shares_slots⟩ <;> rw [p4.pool] <;> rfl

end Content

end ChapterAssembly
