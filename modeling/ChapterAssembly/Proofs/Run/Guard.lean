/-
**When an action can happen, and what it does.**

`Machine.step` has a condition for every action and says what the machine is afterwards.  Here each
action has one statement that gives both, so that whatever is proved about steps need not look into
`Machine.step` again.

Main definitions:

* `Stage.waits` — the stages in which a run waits and sees a cancellation at once;
* `Stage.stores` — the stages in which it waits for the storage;
* `Action.onPool` — the pool of slots after an action.

Main results:

* `Machine.step_begin_iff`, …, `Machine.step_stored_ok_iff` — one for each action;
* `Machine.isCancelled_fireIf` — when a run is cancelled after its token may have fired;
* `Machine.pool_of_step` — only tasks enter and leave the pool.
-/

import ChapterAssembly.Content.Run.Step

set_option relaxedAutoImplicit false
set_option autoImplicit false

namespace ChapterAssembly

namespace Content

/-- A run in this stage waits, and sees at once that its token has fired. -/
def Stage.waits : Stage → Bool
  | .asking _ _ => true
  | .walking _ _ => true
  | .spreading _ _ => true
  | _ => false

/-- The storage has been asked for something in this stage. -/
def Stage.stores : Stage → Bool
  | .saving _ => true
  | .updating _ => true
  | _ => false

namespace Machine

variable {m n : Machine} {r i : Nat} {reply : Except FetchError FetchedPage} {fires : Bool}

/-! ### What stays -/

section Frame

variable (m : Machine) (r token : Nat) (run : Run) (work : Noted Run) (fires : Bool)

@[simp] theorem setRun_runs : (m.setRun r run).runs = m.runs.set r run := rfl

@[simp] theorem setRun_fired : (m.setRun r run).fired = m.fired := rfl

@[simp] theorem setRun_requests : (m.setRun r run).requests = m.requests := rfl

@[simp] theorem setRun_calls : (m.setRun r run).calls = m.calls := rfl

@[simp] theorem noted_runs : (m.noted r work).runs = m.runs.set r (work m.journal).1 := rfl

@[simp] theorem noted_pool : (m.noted r work).pool = m.pool := rfl

@[simp] theorem noted_fired : (m.noted r work).fired = m.fired := rfl

@[simp] theorem noted_requests : (m.noted r work).requests = m.requests := rfl

@[simp] theorem noted_calls : (m.noted r work).calls = m.calls := rfl

@[simp] theorem fire_runs : (m.fire token).runs = m.runs := by
  unfold fire; split <;> rfl

@[simp] theorem fire_requests : (m.fire token).requests = m.requests := by
  unfold fire; split <;> rfl

@[simp] theorem fire_calls : (m.fire token).calls = m.calls := by
  unfold fire; split <;> rfl

@[simp] theorem fire_pool : (m.fire token).pool = m.pool := by
  unfold fire; split <;> rfl

@[simp] theorem fire_journal : (m.fire token).journal = m.journal := by
  unfold fire; split <;> rfl

@[simp] theorem fireIf_runs : (m.fireIf fires token).runs = m.runs := by
  cases fires <;> simp [fireIf]

@[simp] theorem fireIf_pool : (m.fireIf fires token).pool = m.pool := by
  cases fires <;> simp [fireIf]

@[simp] theorem fireIf_journal : (m.fireIf fires token).journal = m.journal := by
  cases fires <;> simp [fireIf]

@[simp] theorem fireIf_requests : (m.fireIf fires token).requests = m.requests := by
  cases fires <;> simp [fireIf]

@[simp] theorem fireIf_calls : (m.fireIf fires token).calls = m.calls := by
  cases fires <;> simp [fireIf]

theorem fired_subset_fire : m.fired ⊆ (m.fire token).fired := by
  unfold fire
  split
  · exact List.Subset.refl _
  · exact List.subset_cons_self _ _

theorem fired_subset_fireIf {k : Machine} (h : k.fired = m.fired) :
    m.fired ⊆ (k.fireIf fires token).fired := by
  rw [← h]
  cases fires
  · exact List.Subset.refl _
  · exact k.fired_subset_fire token

@[simp] theorem call_runs : (m.call r).runs = m.runs := by
  unfold call; split <;> rfl

@[simp] theorem call_fired : (m.call r).fired = m.fired := by
  unfold call; split <;> rfl

@[simp] theorem call_pool : (m.call r).pool = m.pool := by
  unfold call; split <;> rfl

@[simp] theorem call_requests : (m.call r).requests = m.requests := by
  unfold call; split <;> rfl

end Frame

/-! ### Tokens -/

@[simp] theorem isCancelled_requests (m : Machine) (requests : List (Requester × FetchTarget))
    (run : Run) : { m with requests }.isCancelled run = m.isCancelled run := rfl

@[simp] theorem isCancelled_noted (m : Machine) (r : Nat) (run : Run) (work : Noted Run) :
    (m.noted r work).isCancelled run = m.isCancelled run := rfl

@[simp] theorem isCancelled_setRun (m : Machine) (r : Nat) (run run' : Run) :
    (m.setRun r run').isCancelled run = m.isCancelled run := rfl

@[simp] theorem isCancelled_call (m : Machine) (r : Nat) (run : Run) :
    (m.call r).isCancelled run = m.isCancelled run := by
  simp only [isCancelled, call_fired]

@[simp] theorem isCancelled_fire (m : Machine) (token : Nat) (run : Run) :
    (m.fire token).isCancelled run = (m.isCancelled run || run.job.token == token) := by
  unfold fire isCancelled
  split
  · next h =>
      cases ht : run.job.token == token with
      | false => simp
      | true => simp_all [beq_iff_eq.1 ht]
  · rw [List.contains_cons, Bool.or_comm]

@[simp] theorem isCancelled_fireIf (m : Machine) (fires : Bool) (token : Nat) (run : Run) :
    (m.fireIf fires token).isCancelled run =
      (m.isCancelled run || (fires && run.job.token == token)) := by
  cases fires <;> simp [fireIf]

/-! ### What runs do -/

theorem step_begin_iff : m.step (.begin r) = some n ↔
    ∃ run, m.runs[r]? = some run ∧ run.stage = .fresh ∧
      m.noted r (run.begin (m.isCancelled run)) = n := by
  simp only [step]
  cases m.runs[r]? with
  | none => simp
  | some run => cases hs : run.stage <;> simp [hs]

theorem step_notice_iff : m.step (.notice r) = some n ↔
    ∃ run, m.runs[r]? = some run ∧ m.isCancelled run = true ∧ run.stage.waits = true ∧
      m.setRun r (run.fail .cancelled) = n := by
  simp only [step]
  cases m.runs[r]? with
  | none => simp
  | some run => cases hs : run.stage <;> simp [hs, Stage.waits]

theorem step_request_iff : m.step (.request r fires) = some n ↔
    ∃ run w url, m.runs[r]? = some run ∧ run.stage = .asking w url ∧ m.isCancelled run = false ∧
      { m.setRun r { run with stage := .walking w url } with
        requests := (⟨r, none⟩, ⟨url, run.job.source.headers⟩) :: m.requests }.fireIf fires
          run.job.token = n := by
  simp only [step]
  cases m.runs[r]? with
  | none => simp
  | some run =>
      cases hs : run.stage <;> cases hc : m.isCancelled run <;> simp [hs, hc, setRun, and_assoc]

theorem step_exchange_iff : m.step (.exchange r reply fires) = some n ↔
    ∃ run w url, m.runs[r]? = some run ∧ run.stage = .asking w url ∧ m.isCancelled run = false ∧
      ({ m with
        requests := (⟨r, none⟩, ⟨url, run.job.source.headers⟩) :: m.requests }.fireIf fires
          run.job.token).noted r (run.readWalked fires w url reply) = n := by
  simp only [step]
  cases m.runs[r]? with
  | none => simp
  | some run =>
      cases hs : run.stage <;> cases hc : m.isCancelled run <;> simp [hs, hc, and_assoc]

theorem step_reply_iff : m.step (.reply r reply fires) = some n ↔
    ∃ run w url, m.runs[r]? = some run ∧ run.stage = .walking w url ∧ m.isCancelled run = false ∧
      (m.fireIf fires run.job.token).noted r (run.readWalked fires w url reply) = n := by
  simp only [step]
  cases m.runs[r]? with
  | none => simp
  | some run =>
      cases hs : run.stage <;> cases hc : m.isCancelled run <;> simp [hs, hc, and_assoc]

theorem step_collect_iff : m.step (.collect r) = some n ↔
    ∃ run first texts i rest, m.runs[r]? = some run ∧ run.stage = .spreading first texts ∧
      run.finished = i :: rest ∧ m.isCancelled run = false ∧
      m.setRun r (run.collect i first texts) = n := by
  simp only [step]
  cases m.runs[r]? with
  | none => simp
  | some run =>
      cases hs : run.stage <;> cases hf : run.finished <;> cases hc : m.isCancelled run <;>
        simp [hs, hf, hc, and_assoc]

theorem step_gather_iff : m.step (.gather r) = some n ↔
    ∃ run pages, m.runs[r]? = some run ∧ run.stage = .gathered pages ∧
      (if m.isCancelled run then m.setRun r (run.fail .cancelled)
        else m.noted r (run.assemble pages)) = n := by
  simp only [step]
  cases m.runs[r]? with
  | none => simp
  | some run => cases hs : run.stage <;> cases hc : m.isCancelled run <;> simp [hs, hc]

theorem step_deliver_iff : m.step (.deliver r) = some n ↔
    ∃ run pages d, m.runs[r]? = some run ∧ run.stage = .assembled pages ∧
      run.job.delivery? = some d ∧
      (m.noted r (run.deliver (m.isCancelled run) d pages)).call r = n := by
  simp only [step]
  cases m.runs[r]? with
  | none => simp
  | some run => cases hs : run.stage <;> cases hd : run.job.delivery? <;> simp [hs, hd]

/-! ### What the storage does -/

theorem step_stored_error_iff {e : StorageError} : m.step (.stored r (.error e)) = some n ↔
    ∃ run, m.runs[r]? = some run ∧ run.stage.stores = true ∧
      m.setRun r (run.fail (.storage e)) = n := by
  simp only [step]
  cases m.runs[r]? with
  | none => simp
  | some run => cases hs : run.stage <;> simp [hs, Stage.stores]

theorem step_stored_ok_iff : m.step (.stored r (.ok ())) = some n ↔
    ∃ run s, m.runs[r]? = some run ∧
      ((run.stage = .saving s ∧ s.changed = true ∧
        (m.setRun r { run with stage := .updating s }).call r = n) ∨
       (((run.stage = .saving s ∧ s.changed = false) ∨ run.stage = .updating s) ∧
        m.noted r (run.succeed true s.pages s.content) = n)) := by
  simp only [step]
  cases m.runs[r]? with
  | none => simp
  | some run =>
      cases hs : run.stage with
      | saving s => cases hc : s.changed <;> simp [hs, hc, and_assoc, exists_or]
      | _ => simp [hs]

/-! ### What tasks do -/

section Tasks

variable {state : TaskState}

theorem task?_eq_some_iff {run : Run} {task : Task} : m.task? r i = some (run, task) ↔
    m.runs[r]? = some run ∧ run.tasks[i]? = some task := by
  simp only [task?, Option.bind_eq_some_iff, Option.map_eq_some_iff, Prod.mk.injEq]
  constructor
  · rintro ⟨run, h, task, h', rfl, rfl⟩
    exact ⟨h, h'⟩
  · rintro ⟨h, h'⟩
    exact ⟨run, h, task, h', rfl, rfl⟩

theorem step_queue_iff : m.step (.queue r i) = some n ↔
    ∃ run url, m.task? r i = some (run, ⟨url, .spawned⟩) ∧
      { m.setRun r (run.setTask i .queued) with pool := m.pool.enter (r, i) } = n := by
  simp only [step]
  cases m.task? r i with
  | none => simp
  | some p =>
      obtain ⟨run, url, state⟩ := p
      cases state <;> simp [setRun]

theorem step_launch_iff : m.step (.launch r i fires) = some n ↔
    ∃ run url, m.task? r i = some (run, ⟨url, .queued⟩) ∧ m.pool.holds (r, i) = true ∧
      { m.setRun r (run.setTask i .fetching) with
        requests := (⟨r, some i⟩, ⟨url, run.job.source.headers⟩) :: m.requests }.fireIf fires
          run.job.token = n := by
  simp only [step]
  cases m.task? r i with
  | none => simp
  | some p =>
      obtain ⟨run, url, state⟩ := p
      cases state <;> cases hh : m.pool.holds (r, i) <;> simp [setRun, and_assoc]

theorem step_answer_iff : m.step (.answer r i reply fires) = some n ↔
    ∃ run url, m.task? r i = some (run, ⟨url, .fetching⟩) ∧
      { (m.fireIf fires run.job.token).noted r
          (do return run.endTask i (← readFanned run.job.source url reply)) with
        pool := m.pool.leave (r, i) } = n := by
  simp only [step]
  cases m.task? r i with
  | none => simp
  | some p =>
      obtain ⟨run, url, state⟩ := p
      cases state <;> simp [and_assoc]

theorem step_die_iff {message : Text} : m.step (.die r i message) = some n ↔
    ∃ run url, m.task? r i = some (run, ⟨url, .fetching⟩) ∧
      { m.setRun r (run.endTask i (.error (.ofDeath i message))) with
        pool := m.pool.leave (r, i) } = n := by
  simp only [step]
  cases m.task? r i with
  | none => simp
  | some p =>
      obtain ⟨run, url, state⟩ := p
      cases state <;> simp [setRun]

theorem step_drop_iff : m.step (.drop r i) = some n ↔
    ∃ run url, m.task? r i = some (run, ⟨url, .stopping⟩) ∧
      { m.setRun r (run.setTask i .stopped) with pool := m.pool.leave (r, i) } = n := by
  simp only [step]
  cases m.task? r i with
  | none => simp
  | some p =>
      obtain ⟨run, url, state⟩ := p
      cases state <;> simp [setRun]

end Tasks

end Machine

/-! ### What happens to the pool -/

/-- The pool of slots after an action. -/
def Action.onPool (p : Pool (Nat × Nat)) : Action → Pool (Nat × Nat)
  | .queue r i => p.enter (r, i)
  | .answer r i _ _ => p.leave (r, i)
  | .die r i _ => p.leave (r, i)
  | .drop r i => p.leave (r, i)
  | _ => p

/-- **Only tasks enter and leave the pool.** -/
theorem Machine.pool_of_step {m n : Machine} {a : Action} (h : m.step a = some n) :
    n.pool = a.onPool m.pool := by
  cases a with
  | begin r =>
      obtain ⟨run, -, -, rfl⟩ := step_begin_iff.1 h
      rfl
  | fire token =>
      obtain rfl : m.fire token = n := by simpa [step] using h
      exact fire_pool m token
  | notice r =>
      obtain ⟨run, -, -, -, rfl⟩ := step_notice_iff.1 h
      rfl
  | request r fires =>
      obtain ⟨run, w, url, -, -, -, rfl⟩ := step_request_iff.1 h
      exact fireIf_pool _ _ _
  | exchange r reply fires =>
      obtain ⟨run, w, url, -, -, -, rfl⟩ := step_exchange_iff.1 h
      exact fireIf_pool _ _ _
  | reply r reply fires =>
      obtain ⟨run, w, url, -, -, -, rfl⟩ := step_reply_iff.1 h
      exact fireIf_pool _ _ _
  | queue r i =>
      obtain ⟨run, url, -, rfl⟩ := step_queue_iff.1 h
      rfl
  | launch r i fires =>
      obtain ⟨run, url, -, -, rfl⟩ := step_launch_iff.1 h
      exact fireIf_pool _ _ _
  | answer r i reply fires =>
      obtain ⟨run, url, -, rfl⟩ := step_answer_iff.1 h
      rfl
  | die r i message =>
      obtain ⟨run, url, -, rfl⟩ := step_die_iff.1 h
      rfl
  | drop r i =>
      obtain ⟨run, url, -, rfl⟩ := step_drop_iff.1 h
      rfl
  | collect r =>
      obtain ⟨run, first, texts, i, rest, -, -, -, -, rfl⟩ := step_collect_iff.1 h
      rfl
  | gather r =>
      obtain ⟨run, pages, -, -, rfl⟩ := step_gather_iff.1 h
      split <;> rfl
  | deliver r =>
      obtain ⟨run, pages, d, -, -, -, rfl⟩ := step_deliver_iff.1 h
      exact call_pool _ _
  | stored r result =>
      cases result with
      | error e =>
          obtain ⟨run, -, -, rfl⟩ := step_stored_error_iff.1 h
          rfl
      | ok u =>
          obtain ⟨run, s, -, ⟨-, -, rfl⟩ | ⟨-, rfl⟩⟩ := step_stored_ok_iff.1 h
          · exact call_pool _ _
          · rfl

end Content

end ChapterAssembly
