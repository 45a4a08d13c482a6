/-
**One task among many.**

What an action does to one task of a run is said once, by the state of the task and nothing else:
the task stays as it is, or it is told to stop, or its run brings it about, or it goes on by itself.
The pages that a run requests are those of its walk and of its tasks.

Main definitions:

* `Action.task?` — the task that an action is one of;
* `Run.stateAt` — the state of the task at a position;
* `Turn` — what an action does to the state of a task.

Main results:

* `Move.turn` — **every move is a turn of every task**;
* `Move.requests`, `Move.hasRequested` — what a move does to the requests of a run;
* `Machine.exists_view_of_step` — a step of the machine is a move of every run.
-/

import ChapterAssembly.Proofs.Run.Stage

set_option relaxedAutoImplicit false
set_option autoImplicit false

namespace ChapterAssembly

namespace Content

/-! ### Tasks and their actions -/

/-- The task that an action is one of, with its run. -/
def Action.task? : Action → Option (Nat × Nat)
  | .queue r i => some (r, i)
  | .launch r i _ => some (r, i)
  | .answer r i _ _ => some (r, i)
  | .die r i _ => some (r, i)
  | .drop r i => some (r, i)
  | _ => none

theorem Action.task?_eq_none_of_run {a : Action} {r : Nat} (h : a.run? ≠ some r) (i : Nat) :
    a.task? ≠ some (r, i) := by
  cases a <;> simp_all [task?, run?]

/-- The state of the task at a position. -/
def Run.stateAt (run : Run) (i : Nat) : Option TaskState := (run.tasks[i]?).map (·.state)

theorem Run.stateAt_setTask (run : Run) (i j : Nat) (s : TaskState) :
    (run.setTask i s).stateAt j =
      if i = j then (run.stateAt j).map (fun _ => s) else run.stateAt j := by
  simp only [stateAt, setTask, List.getElem?_modify]
  split <;> simp [*, Function.comp_def]

theorem Run.stateAt_stop {run run' : Run} (h : run'.tasks = run.tasks.map Task.stop) (i : Nat) :
    run'.stateAt i = (run.stateAt i).map TaskState.stop := by
  simp [stateAt, h, Function.comp_def, Task.stop]

/-! ### Turns -/

/-- **What an action does to the state of a task.** -/
inductive Turn (r i : Nat) (a : Action) : Option TaskState → Option TaskState → Prop
  /-- The task stays as it is, and the action is not one of it. -/
  | stays {s : Option TaskState} (ha : a.task? ≠ some (r, i)) : Turn r i a s s
  | stop {s : TaskState} (ha : a.task? = none) : Turn r i a (some s) (some s.stop)
  | made (ha : a.task? = none) : Turn r i a none (some .spawned)
  | goesOn {job : Job} {url : Text} {s s' : TaskState} (h : TaskMove r job i url a s s') :
      Turn r i a (some s) (some s')

variable {r i : Nat} {v v' : View} {a : Action}

theorem Turn.of_tasks {run run' : Run} (ha : a.task? = none)
    (h : run'.tasks = run.tasks ∨ run'.tasks = run.tasks.map Task.stop) :
    Turn r i a (run.stateAt i) (run'.stateAt i) := by
  rcases h with h | h
  · rw [show run'.stateAt i = run.stateAt i by rw [Run.stateAt, h, Run.stateAt]]
    exact .stays (by simp [ha])
  · rw [Run.stateAt_stop h]
    cases run.stateAt i with
    | none => exact .stays (by simp [ha])
    | some s => exact .stop ha

theorem Turn.of_taskMove (job : Job) {run : Run} {j : Nat} {url : Text} {s s' : TaskState}
    (ht : run.tasks[j]? = some ⟨url, s⟩) (h : TaskMove r job j url a s s')
    (ha : a.task? = some (r, j)) :
    Turn r i a (run.stateAt i) ((run.setTask j s').stateAt i) := by
  rw [Run.stateAt_setTask]
  split
  · next hij =>
      subst hij
      simp only [Run.stateAt, ht, Option.map_some]
      exact .goesOn h
  · next hij => exact .stays (by simp [ha, hij])

/-- **Every move is a turn of every task**, if a run has no tasks before it has begun. -/
theorem Move.turn (h : Move r v a v') (hf : v.run.stage = .fresh → v.run.tasks = []) (i : Nat) :
    Turn r i a (v.run.stateAt i) (v'.run.stateAt i) := by
  cases h with
  | other ha => exact .stays (Action.task?_eq_none_of_run ha i)
  | begin hs =>
      rcases Run.begun_tasks v.run v.cancelled with ht | ht | ⟨urls, ht⟩
      · exact .of_tasks rfl (.inl ht)
      · exact .of_tasks rfl (.inr ht)
      · simp only [Run.stateAt, ht, hf hs, List.getElem?_nil, List.getElem?_map, Option.map_none]
        cases urls[i]? with
        | none => exact .stays (by simp [Action.task?])
        | some url => exact .made rfl
  | queue ht => exact .of_taskMove v.run.job ht .queue rfl
  | launch ht => exact .of_taskMove v.run.job ht (.launch _) rfl
  | answer ht => exact .of_taskMove _ ht (.answer _ _) rfl
  | die ht => exact .of_taskMove v.run.job ht (.die _) rfl
  | drop ht => exact .of_taskMove v.run.job ht .drop rfl
  | exchange => exact .of_tasks rfl (Run.walked_tasks ..)
  | reply => exact .of_tasks rfl (Run.walked_tasks ..)
  | collect => exact .of_tasks rfl (Run.collect_tasks ..)
  | deliver => exact .of_tasks rfl (Run.delivered_tasks ..)
  | notice | abandon | refuse => exact .of_tasks rfl (.inr rfl)
  | request | gather | update | finish => exact .of_tasks rfl (.inl rfl)

/-! ### Runs without tasks -/

/-- A run that has begun with a first page that names at most one other has no tasks, and waits for
none. -/
theorem Run.begun_of_few (run : Run) (h : run.tasks = []) (cancelled : Bool)
    (hfew : ∀ first, run.job.firstPage = .ok first → first.next.length ≤ 1) :
    (run.begun cancelled).tasks = [] ∧
      ∀ first texts, (run.begun cancelled).stage ≠ .spreading first texts := by
  obtain ⟨title, e, hb⟩ | ⟨title, page, -, hf, hb⟩ := run.begun_cases cancelled
  · simp [hb, fail, h]
  · have hfew := hfew page hf
    rw [hb]
    match hnext : page.next with
    | [] => simp [spread, h]
    | [candidate] =>
        refine ⟨by simp [spread, h], fun first texts => ?_⟩
        simp only [spread, wentOn]
        split <;> simp
    | _ :: _ :: _ => simp [hnext] at hfew

/-! ### Requests -/

namespace View

/-- The request of the task at a position has been made. -/
def hasRequested (v : View) (i : Nat) : Bool := v.requests.any fun q => q.1 == some i

end View

/-- **What a move does to the requests of a run**: nothing, or its walk or one of its tasks makes
one more. -/
theorem Move.requests (h : Move r v a v') :
    (v'.requests = v.requests ∧ ∀ i fires, a ≠ .launch r i fires) ∨
    (∃ w url, v.run.stage = .asking w url ∧ a.task? = none ∧
      v'.requests = v.requests ++ [(none, v.run.target url)]) ∨
    ∃ i url fires, a = .launch r i fires ∧ v.run.tasks[i]? = some ⟨url, .queued⟩ ∧
      v'.requests = v.requests ++ [(some i, v.run.target url)] := by
  cases h with
  | other ha =>
      refine .inl ⟨rfl, ?_⟩
      rintro i fires rfl
      exact ha rfl
  | request hs => exact .inr (.inl ⟨_, _, hs, rfl, rfl⟩)
  | exchange hs => exact .inr (.inl ⟨_, _, hs, rfl, rfl⟩)
  | launch ht => exact .inr (.inr ⟨_, _, _, rfl, ht, rfl⟩)
  | _ => exact .inl ⟨rfl, by simp⟩

theorem Move.hasRequested (h : Move r v a v') (i : Nat) :
    v'.hasRequested i = true ↔ v.hasRequested i = true ∨ ∃ fires, a = .launch r i fires := by
  rcases h.requests with ⟨hq, ha⟩ | ⟨w, url, -, ha, hq⟩ | ⟨j, url, fires, rfl, -, hq⟩
  · simp [View.hasRequested, hq, ha]
  · have hne : ∀ fires, a ≠ .launch r i fires := by
      rintro fires rfl
      simp [Action.task?] at ha
    simp [View.hasRequested, hq, hne]
  · simp [View.hasRequested, hq]

/-! ### Steps of the machine -/

namespace Machine

variable {m n : Machine}

/-- A run that acts is there. -/
theorem exists_run_of_step (h : m.step a = some n) (ha : a.run? = some r) :
    ∃ run, m.runs[r]? = some run := by
  cases hr : m.runs[r]? with
  | some run => exact ⟨run, rfl⟩
  | none => cases a <;> simp_all [step, task?, Action.run?]

theorem exists_view_of_step (h : m.step a = some n) (hv : n.view? r = some v') :
    ∃ v, m.view? r = some v ∧ Move r v a v' := by
  cases hm : m.view? r with
  | some v =>
      obtain ⟨v'', hv'', hmove⟩ := move_of_step h hm
      obtain rfl := Option.some.inj (hv''.symm.trans hv)
      exact ⟨v, rfl, hmove⟩
  | none =>
      -- neither does a run that is not there act, nor does another one bring it about
      have hr : m.runs[r]? = none := by simpa [view?] using hm
      by_cases ha : a.run? = some r
      · obtain ⟨run, hrun⟩ := exists_run_of_step h ha
        simp [hr] at hrun
      · have hn := (view?_eq_some_iff.1 hv).1
        simp [(frame h ha).1, hr] at hn

end Machine

end Content

end ChapterAssembly
