/-
**One run among many.**

A machine holds many runs, and any of them may act at any time.  What concerns a single run is
little: the run itself, whether it is cancelled, its requests, and what it asked of the storage.
This is its *view*, and an action either is the run's own, and then does to the view one of a few
things, or leaves all of it as it was but perhaps for a token that fires.

Main definitions:

* `Content.View`, `Machine.view?` — what concerns one run of a machine;
* `Content.Move` — what an action does to a view;
* `Machine.Writes` — nothing but what concerns one run was written;
* `Machine.Path`, `Machine.Takes` — actions one after another, and an action on the way;
* `Machine.play` — the machine that actions lead to, computed;
* `Machine.Fresh`, `Machine.ofJobs` — a run that is still to begin, and a machine of such runs.

Main results:

* `Machine.writes_of_own` — an action of a run is a move of its view, and writes nothing else;
* `Machine.move_of_step` — **every step is a move of every view**;
* `Machine.step_of_move` — and a move of a run is a step, if the task it launches has its slot;
* `Machine.Path.view_induction` — what holds of the view of a fresh run and is kept by every move
  holds along every path;
* `Machine.path_iff` — a path is what playing its actions leads through.
-/

import ChapterAssembly.Proofs.Run.Guard
import ChapterAssembly.Proofs.Run.Plain

set_option relaxedAutoImplicit false
set_option autoImplicit false

namespace ChapterAssembly

namespace Content

/-! ### Views -/

/-- What concerns one run of a machine: its requests and calls stand with the oldest first. -/
structure View where
  run : Run
  /-- The token of the run has fired. -/
  cancelled : Bool
  /-- Each request with the task that makes it, or with none if it is made on a walk. -/
  requests : List (Option Nat × FetchTarget)
  calls : List Call

namespace Machine

variable {m n : Machine} {a : Action} {r : Nat}

/-- The requests of a run, the oldest first. -/
def requestsOf (m : Machine) (r : Nat) : List (Option Nat × FetchTarget) :=
  (m.requests.filterMap fun q => if q.1.run = r then some (q.1.task, q.2) else none).reverse

/-- What a run asked of the storage, the oldest first. -/
def callsOf (m : Machine) (r : Nat) : List Call :=
  (m.calls.filterMap fun c => if c.1 = r then some c.2 else none).reverse

/-- The view of a run. -/
def view? (m : Machine) (r : Nat) : Option View :=
  (m.runs[r]?).map fun run => ⟨run, m.isCancelled run, m.requestsOf r, m.callsOf r⟩

theorem view?_eq_some_iff {v : View} : m.view? r = some v ↔
    m.runs[r]? = some v.run ∧ m.isCancelled v.run = v.cancelled ∧ m.requestsOf r = v.requests ∧
      m.callsOf r = v.calls := by
  obtain ⟨run, cancelled, requests, calls⟩ := v
  simp only [view?, Option.map_eq_some_iff, View.mk.injEq]
  constructor
  · rintro ⟨run, h, rfl, rfl, rfl, rfl⟩
    exact ⟨h, rfl, rfl, rfl⟩
  · rintro ⟨h, rfl, rfl, rfl⟩
    exact ⟨run, h, rfl, rfl, rfl, rfl⟩

theorem requestsOf_congr (h : m.requests = n.requests) : m.requestsOf r = n.requestsOf r := by
  simp only [requestsOf, h]

theorem callsOf_congr (h : m.calls = n.calls) : m.callsOf r = n.callsOf r := by
  simp only [callsOf, h]

theorem requestsOf_of_cons (who : Requester) (target : FetchTarget)
    (h : n.requests = (who, target) :: m.requests) :
    n.requestsOf r = m.requestsOf r ++ if who.run = r then [(who.task, target)] else [] := by
  simp only [requestsOf, h, List.filterMap_cons]
  split <;> simp_all

theorem callsOf_call (m : Machine) (i r : Nat) : (m.call i).callsOf r =
    m.callsOf r ++ if i = r then ((m.runs[i]?).bind callOf).toList else [] := by
  unfold call
  cases (m.runs[i]?).bind callOf with
  | none => simp
  | some c =>
      simp only [callsOf, List.filterMap_cons]
      split <;> simp_all

end Machine

/-! ### Moves -/

/-- The run that an action is one of. -/
def Action.run? : Action → Option Nat
  | .fire _ => none
  | .begin r => some r
  | .notice r => some r
  | .request r _ => some r
  | .exchange r _ _ => some r
  | .reply r _ _ => some r
  | .queue r _ => some r
  | .launch r _ _ => some r
  | .answer r _ _ _ => some r
  | .die r _ _ => some r
  | .drop r _ => some r
  | .collect r => some r
  | .gather r => some r
  | .deliver r => some r
  | .stored r _ => some r

/-- What a run asks for when it asks for a URL. -/
def Run.target (r : Run) (url : Text) : FetchTarget := ⟨url, r.job.source.headers⟩

/-- **What an action does to the view of run `r`.** -/
inductive Move (r : Nat) (v : View) : Action → View → Prop
  /-- Another run acts, or a token fires, which may be that of run `r`. -/
  | other {a : Action} {cancelled : Bool} (ha : a.run? ≠ some r)
      (hc : v.cancelled = true → cancelled = true) : Move r v a { v with cancelled }
  | begin (hs : v.run.stage = .fresh) :
      Move r v (.begin r) { v with run := v.run.begun v.cancelled }
  | notice (hs : v.run.stage.waits = true) (hc : v.cancelled = true) :
      Move r v (.notice r) { v with run := v.run.fail .cancelled }
  | request {w : Walk} {url : Text} {fires : Bool} (hs : v.run.stage = .asking w url)
      (hc : v.cancelled = false) :
      Move r v (.request r fires) { v with
        run := { v.run with stage := .walking w url }
        cancelled := fires
        requests := v.requests ++ [(none, v.run.target url)] }
  | exchange {w : Walk} {url : Text} {reply : Except FetchError FetchedPage} {fires : Bool}
      (hs : v.run.stage = .asking w url) (hc : v.cancelled = false) :
      Move r v (.exchange r reply fires) { v with
        run := v.run.walked fires w (readReply v.run.job.source.rules true url reply)
        cancelled := fires
        requests := v.requests ++ [(none, v.run.target url)] }
  | reply {w : Walk} {url : Text} {reply : Except FetchError FetchedPage} {fires : Bool}
      (hs : v.run.stage = .walking w url) (hc : v.cancelled = false) :
      Move r v (.reply r reply fires) { v with
        run := v.run.walked fires w (readReply v.run.job.source.rules true url reply)
        cancelled := fires }
  | queue {i : Nat} {url : Text} (ht : v.run.tasks[i]? = some ⟨url, .spawned⟩) :
      Move r v (.queue r i) { v with run := v.run.setTask i .queued }
  | launch {i : Nat} {url : Text} {fires : Bool} (ht : v.run.tasks[i]? = some ⟨url, .queued⟩) :
      Move r v (.launch r i fires) { v with
        run := v.run.setTask i .fetching
        cancelled := v.cancelled || fires
        requests := v.requests ++ [(some i, v.run.target url)] }
  | answer {i : Nat} {url : Text} {reply : Except FetchError FetchedPage} {fires : Bool}
      (ht : v.run.tasks[i]? = some ⟨url, .fetching⟩) :
      Move r v (.answer r i reply fires) { v with
        run := v.run.endTask i
          ((readReply v.run.job.source.rules false url reply).map (·.text))
        cancelled := v.cancelled || fires }
  | die {i : Nat} {url message : Text} (ht : v.run.tasks[i]? = some ⟨url, .fetching⟩) :
      Move r v (.die r i message) { v with run := v.run.endTask i (.error (.ofDeath i message)) }
  | drop {i : Nat} {url : Text} (ht : v.run.tasks[i]? = some ⟨url, .stopping⟩) :
      Move r v (.drop r i) { v with run := v.run.setTask i .stopped }
  | collect {first : Text} {texts : List (Option Text)} {i : Nat} {rest : List Nat}
      (hs : v.run.stage = .spreading first texts) (hf : v.run.finished = i :: rest)
      (hc : v.cancelled = false) :
      Move r v (.collect r) { v with run := v.run.collect i first texts }
  | gather {pages : Pages} (hs : v.run.stage = .gathered pages) (hc : v.cancelled = false) :
      Move r v (.gather r) { v with run := { v.run with stage := .assembled pages } }
  | abandon {pages : Pages} (hs : v.run.stage = .gathered pages) (hc : v.cancelled = true) :
      Move r v (.gather r) { v with run := v.run.fail .cancelled }
  | deliver {pages : Pages} {d : Delivery} (hs : v.run.stage = .assembled pages)
      (hd : v.run.job.delivery? = some d) :
      Move r v (.deliver r) { v with
        run := v.run.delivered v.cancelled d pages
        calls := v.calls ++ (Machine.callOf (v.run.delivered v.cancelled d pages)).toList }
  | refuse {e : StorageError} (hs : v.run.stage.stores = true) :
      Move r v (.stored r (.error e)) { v with run := v.run.fail (.storage e) }
  | update {s : Saving} (hs : v.run.stage = .saving s) (hc : s.changed = true) :
      Move r v (.stored r (.ok ())) { v with
        run := { v.run with stage := .updating s }
        calls := v.calls ++ [.update s.chapter] }
  | finish {s : Saving}
      (hs : (v.run.stage = .saving s ∧ s.changed = false) ∨ v.run.stage = .updating s) :
      Move r v (.stored r (.ok ())) { v with
        run := { v.run with stage := .ended (.ok s.content) } }

/-! ### The job of a run -/

namespace Run

variable (r : Run)

@[simp] theorem fail_job (e : ContentError) : (r.fail e).job = r.job := rfl

@[simp] theorem setTask_job (i : Nat) (s : TaskState) : (r.setTask i s).job = r.job := rfl

@[simp] theorem endTask_job (i : Nat) (t : Except ContentError Text) :
    (r.endTask i t).job = r.job := rfl

@[simp] theorem wentOn_job (w : Walk) (candidate : Text) :
    (r.wentOn w candidate).job = r.job := by
  unfold wentOn; split <;> rfl

@[simp] theorem walked_job (cancelled : Bool) (w : Walk) (found : Except ContentError Extracted) :
    (r.walked cancelled w found).job = r.job := by
  unfold walked
  split
  · rfl
  · split
    · rfl
    · split <;> simp

@[simp] theorem spread_job (text : Text) (next : List Text) : (r.spread text next).job = r.job := by
  unfold spread; split <;> simp

@[simp] theorem begun_job (cancelled : Bool) : (r.begun cancelled).job = r.job := by
  unfold begun
  split
  · rfl
  · simp only
    split
    · rfl
    · split <;> simp

@[simp] theorem collect_job (i : Nat) (first : Text) (texts : List (Option Text)) :
    (r.collect i first texts).job = r.job := by
  unfold collect; split <;> rfl

@[simp] theorem delivered_job (cancelled : Bool) (d : Delivery) (pages : Pages) :
    (r.delivered cancelled d pages).job = r.job := by
  unfold delivered
  split
  · rfl
  · (repeat' split) <;> rfl

end Run

theorem Move.job {r : Nat} {v v' : View} {a : Action} (h : Move r v a v') :
    v'.run.job = v.run.job := by
  cases h <;> simp

/-- A run that is cancelled stays so. -/
theorem Move.cancelled_mono {r : Nat} {v v' : View} {a : Action} (h : Move r v a v')
    (hc : v.cancelled = true) : v'.cancelled = true := by
  cases h <;> simp_all

/-- A run that is not cancelled was not cancelled before. -/
theorem Move.active_of_active {r : Nat} {v v' : View} {a : Action} (h : Move r v a v')
    (hc : v'.cancelled = false) : v.cancelled = false := by
  cases hv : v.cancelled with
  | false => rfl
  | true => simp [h.cancelled_mono hv] at hc

/-- Each action of a run is one move of it. -/
theorem Move.unique {r : Nat} {v v' v'' : View} {a : Action} (h : Move r v a v')
    (h' : Move r v a v'') (ha : a.run? = some r) : v' = v'' := by
  cases h with
  | other ha' => exact absurd ha ha'
  | finish hs =>
      cases h' with
      | other ha' => exact absurd ha ha'
      | update hs' hc => rcases hs with ⟨hs, hc'⟩ | hs <;> simp_all
      | finish hs' => rcases hs with ⟨hs, -⟩ | hs <;> rcases hs' with ⟨hs', -⟩ | hs' <;> simp_all
  | update hs hc =>
      cases h' with
      | other ha' => exact absurd ha ha'
      | update hs' hc => simp_all
      | finish hs' => rcases hs' with ⟨hs', hc'⟩ | hs' <;> simp_all
  | _ =>
      cases h' with
      | other ha' => exact absurd ha ha'
      | _ => simp_all

/-! ### What an action of a run writes -/

namespace Machine

variable {m n : Machine} {a : Action} {r i : Nat} {v : View}

theorem isCancelled_congr {run run' : Run} (h : run'.job = run.job) :
    m.isCancelled run' = m.isCancelled run := by
  simp only [isCancelled, h]

theorem isCancelled_mono (h : m.fired ⊆ n.fired) {run : Run} (hc : m.isCancelled run = true) :
    n.isCancelled run = true := by
  simp only [isCancelled, List.contains_iff_mem] at hc ⊢
  exact h hc

theorem getElem?_set_of_eq_some {α : Type} {l : List α} {x : α} (h : l[r]? = some x) (y : α) :
    (l.set r y)[r]? = some y :=
  List.getElem?_set_self (List.getElem?_eq_some_iff.1 h).1

/-- **From `m` to `n` only what concerns run `i` was written**, and `v` is its view then. -/
structure Writes (m : Machine) (i : Nat) (v : View) (n : Machine) : Prop where
  view : n.view? i = some v
  runs : ∀ r, r ≠ i → n.runs[r]? = m.runs[r]?
  requests : ∀ r, r ≠ i → n.requestsOf r = m.requestsOf r
  calls : ∀ r, r ≠ i → n.callsOf r = m.callsOf r
  fired : m.fired ⊆ n.fired

namespace Writes

variable {k : Machine}

theorem refl (hv : m.view? i = some v) : m.Writes i v m :=
  ⟨hv, fun _ _ => rfl, fun _ _ => rfl, fun _ _ => rfl, List.Subset.refl _⟩

/-- A run is replaced. -/
theorem setRun (h : m.Writes i v k) (run : Run) (hj : run.job = v.run.job) :
    m.Writes i { v with run } (k.setRun i run) where
  view := by
    obtain ⟨hr, hc, hq, hs⟩ := view?_eq_some_iff.1 h.view
    exact view?_eq_some_iff.2
      ⟨getElem?_set_of_eq_some hr _, (isCancelled_congr hj).trans hc, hq, hs⟩
  runs r hr := (List.getElem?_set_ne hr.symm).trans (h.runs r hr)
  requests := h.requests
  calls := h.calls
  fired := h.fired

/-- A run is replaced after work that writes the journal. -/
theorem noted {run : Run} {work : Noted Run} (h : m.Writes i v k) (hw : ∀ j, (work j).1 = run)
    (hj : run.job = v.run.job) : m.Writes i { v with run } (k.noted i work) where
  view := by
    rw [← (h.setRun run hj).view, ← hw k.journal]
    rfl
  runs r hr := (List.getElem?_set_ne hr.symm).trans (h.runs r hr)
  requests := h.requests
  calls := h.calls
  fired := h.fired

/-- The pool does not concern a run. -/
theorem withPool (h : m.Writes i v k) (pool : Pool (Nat × Nat)) :
    m.Writes i v { k with pool } :=
  ⟨h.view, h.runs, h.requests, h.calls, h.fired⟩

/-- A page is requested. -/
theorem request (h : m.Writes i v k) (task : Option Nat) (target : FetchTarget) :
    m.Writes i { v with requests := v.requests ++ [(task, target)] }
      { k with requests := (⟨i, task⟩, target) :: k.requests } where
  view := by
    obtain ⟨hr, hc, hq, hs⟩ := view?_eq_some_iff.1 h.view
    refine view?_eq_some_iff.2 ⟨hr, hc, ?_, hs⟩
    rw [requestsOf_of_cons ⟨i, task⟩ target rfl, hq, if_pos rfl]
  runs := h.runs
  requests r hr := by
    rw [requestsOf_of_cons ⟨i, task⟩ target rfl, if_neg hr.symm, List.append_nil, h.requests r hr]
  calls := h.calls
  fired := h.fired

/-- The token of the run may fire. -/
theorem fireIf (h : m.Writes i v k) (fires : Bool) :
    m.Writes i { v with cancelled := v.cancelled || fires }
      (k.fireIf fires v.run.job.token) where
  view := by
    obtain ⟨hr, hc, hq, hs⟩ := view?_eq_some_iff.1 h.view
    refine view?_eq_some_iff.2 ⟨?_, ?_, ?_, ?_⟩
    · rw [fireIf_runs, hr]
    · simp [hc]
    · exact (requestsOf_congr (by simp)).trans hq
    · exact (callsOf_congr (by simp)).trans hs
  runs r hr := by rw [fireIf_runs, h.runs r hr]
  requests r hr := (requestsOf_congr (by simp)).trans (h.requests r hr)
  calls r hr := (callsOf_congr (by simp)).trans (h.calls r hr)
  fired := List.Subset.trans h.fired (fired_subset_fireIf k _ _ rfl)

/-- The token of a run that is not cancelled may fire. -/
theorem fireIf_of_active (h : m.Writes i v k) (hc : v.cancelled = false) (fires : Bool) :
    m.Writes i { v with cancelled := fires } (k.fireIf fires v.run.job.token) := by
  have hfire := h.fireIf fires
  rwa [hc, Bool.false_or] at hfire

/-- The storage is asked for what the stage of the run says. -/
theorem call (h : m.Writes i v k) :
    m.Writes i { v with calls := v.calls ++ (callOf v.run).toList } (k.call i) where
  view := by
    obtain ⟨hr, hc, hq, hs⟩ := view?_eq_some_iff.1 h.view
    refine view?_eq_some_iff.2 ⟨?_, ?_, ?_, ?_⟩
    · rw [call_runs, hr]
    · rw [isCancelled_call, hc]
    · exact (requestsOf_congr (by simp)).trans hq
    · rw [callsOf_call, hs, if_pos rfl, hr]
      rfl
  runs r hr := by rw [call_runs, h.runs r hr]
  requests r hr := (requestsOf_congr (by simp)).trans (h.requests r hr)
  calls r hr := by rw [callsOf_call, if_neg hr.symm, List.append_nil, h.calls r hr]
  fired := by simpa using h.fired

end Writes

/-- **An action of a run is a move of its view**, and writes nothing else. -/
theorem writes_of_own (h : m.step a = some n) (ha : a.run? = some i) :
    ∃ v v', m.view? i = some v ∧ Move i v a v' ∧ m.Writes i v' n := by
  have hview : ∀ {run}, m.runs[i]? = some run →
      m.view? i = some ⟨run, m.isCancelled run, m.requestsOf i, m.callsOf i⟩ :=
    fun hr => view?_eq_some_iff.2 ⟨hr, rfl, rfl, rfl⟩
  -- what is written is put together in the order in which the action writes it
  cases a with
  | fire => simp [Action.run?] at ha
  | begin r =>
      obtain rfl := Option.some.inj ha
      obtain ⟨run, hr, hs, rfl⟩ := step_begin_iff.1 h
      exact ⟨_, _, hview hr, .begin hs,
        (Writes.refl (hview hr)).noted (Run.begin_fst run _) (by simp)⟩
  | notice r =>
      obtain rfl := Option.some.inj ha
      obtain ⟨run, hr, hc, hs, rfl⟩ := step_notice_iff.1 h
      exact ⟨_, _, hview hr, .notice hs hc, (Writes.refl (hview hr)).setRun _ rfl⟩
  | request r fires =>
      obtain rfl := Option.some.inj ha
      obtain ⟨run, w, url, hr, hs, hc, rfl⟩ := step_request_iff.1 h
      have hset := (Writes.refl (hview hr)).setRun { run with stage := .walking w url } rfl
      exact ⟨_, _, hview hr, .request hs hc, (hset.request none _).fireIf_of_active hc fires⟩
  | exchange r reply fires =>
      obtain rfl := Option.some.inj ha
      obtain ⟨run, w, url, hr, hs, hc, rfl⟩ := step_exchange_iff.1 h
      have hrequest := (Writes.refl (hview hr)).request none (run.target url)
      have hfire := hrequest.fireIf_of_active hc fires
      exact ⟨_, _, hview hr, .exchange hs hc,
        hfire.noted (run.readWalked_fst fires w url reply) (by simp)⟩
  | reply r reply fires =>
      obtain rfl := Option.some.inj ha
      obtain ⟨run, w, url, hr, hs, hc, rfl⟩ := step_reply_iff.1 h
      have hfire := (Writes.refl (hview hr)).fireIf_of_active hc fires
      exact ⟨_, _, hview hr, .reply hs hc,
        hfire.noted (run.readWalked_fst fires w url reply) (by simp)⟩
  | queue r j =>
      obtain rfl := Option.some.inj ha
      obtain ⟨run, url, htask, rfl⟩ := step_queue_iff.1 h
      obtain ⟨hr, ht⟩ := task?_eq_some_iff.1 htask
      have hset := (Writes.refl (hview hr)).setRun (run.setTask j .queued) rfl
      exact ⟨_, _, hview hr, .queue ht, hset.withPool _⟩
  | launch r j fires =>
      obtain rfl := Option.some.inj ha
      obtain ⟨run, url, htask, -, rfl⟩ := step_launch_iff.1 h
      obtain ⟨hr, ht⟩ := task?_eq_some_iff.1 htask
      have hset := (Writes.refl (hview hr)).setRun (run.setTask j .fetching) rfl
      exact ⟨_, _, hview hr, .launch ht, (hset.request (some j) (run.target url)).fireIf fires⟩
  | answer r j reply fires =>
      obtain rfl := Option.some.inj ha
      obtain ⟨run, url, htask, rfl⟩ := step_answer_iff.1 h
      obtain ⟨hr, ht⟩ := task?_eq_some_iff.1 htask
      have hfire := (Writes.refl (hview hr)).fireIf fires
      have hread : ∀ journal, ((do return run.endTask j (← readFanned run.job.source url reply) :
          Noted Run) journal).1 =
            run.endTask j ((readReply run.job.source.rules false url reply).map (·.text)) := by
        intro journal
        rw [← readFanned_fst run.job.source url reply journal]
        rfl
      exact ⟨_, _, hview hr, .answer ht, (hfire.noted hread (by simp)).withPool _⟩
  | die r j message =>
      obtain rfl := Option.some.inj ha
      obtain ⟨run, url, htask, rfl⟩ := step_die_iff.1 h
      obtain ⟨hr, ht⟩ := task?_eq_some_iff.1 htask
      have hset := (Writes.refl (hview hr)).setRun
        (run.endTask j (.error (.ofDeath j message))) (by simp)
      exact ⟨_, _, hview hr, .die ht, hset.withPool _⟩
  | drop r j =>
      obtain rfl := Option.some.inj ha
      obtain ⟨run, url, htask, rfl⟩ := step_drop_iff.1 h
      obtain ⟨hr, ht⟩ := task?_eq_some_iff.1 htask
      have hset := (Writes.refl (hview hr)).setRun (run.setTask j .stopped) rfl
      exact ⟨_, _, hview hr, .drop ht, hset.withPool _⟩
  | collect r =>
      obtain rfl := Option.some.inj ha
      obtain ⟨run, first, texts, j, rest, hr, hs, hf, hc, rfl⟩ := step_collect_iff.1 h
      exact ⟨_, _, hview hr, .collect hs hf hc, (Writes.refl (hview hr)).setRun _ (by simp)⟩
  | gather r =>
      obtain rfl := Option.some.inj ha
      obtain ⟨run, pages, hr, hs, rfl⟩ := step_gather_iff.1 h
      split
      · next hc => exact ⟨_, _, hview hr, .abandon hs hc, (Writes.refl (hview hr)).setRun _ rfl⟩
      · next hc =>
          exact ⟨_, _, hview hr, .gather hs (by simpa using hc),
            (Writes.refl (hview hr)).noted (fun _ => rfl) rfl⟩
  | deliver r =>
      obtain rfl := Option.some.inj ha
      obtain ⟨run, pages, d, hr, hs, hd, rfl⟩ := step_deliver_iff.1 h
      exact ⟨_, _, hview hr, .deliver hs hd,
        ((Writes.refl (hview hr)).noted (run.deliver_fst _ d pages) (by simp)).call⟩
  | stored r result =>
      obtain rfl := Option.some.inj ha
      cases result with
      | error e =>
          obtain ⟨run, hr, hs, rfl⟩ := step_stored_error_iff.1 h
          exact ⟨_, _, hview hr, .refuse hs, (Writes.refl (hview hr)).setRun _ rfl⟩
      | ok u =>
          obtain ⟨run, s, hr, ⟨hs, hchanged, rfl⟩ | ⟨hs, rfl⟩⟩ := step_stored_ok_iff.1 h
          · have hset := (Writes.refl (hview hr)).setRun { run with stage := .updating s } rfl
            exact ⟨_, _, hview hr, .update hs hchanged, hset.call⟩
          · exact ⟨_, _, hview hr, .finish hs, (Writes.refl (hview hr)).noted (fun _ => rfl) rfl⟩

/-! ### Every step is a move -/

/-- What an action of another run leaves as it was. -/
theorem frame (h : m.step a = some n) (ha : a.run? ≠ some r) :
    n.runs[r]? = m.runs[r]? ∧ n.requestsOf r = m.requestsOf r ∧ n.callsOf r = m.callsOf r ∧
      m.fired ⊆ n.fired := by
  cases hi : a.run? with
  | some i =>
      have hr : r ≠ i := by
        rintro rfl
        exact ha hi
      obtain ⟨_, _, -, -, hw⟩ := writes_of_own h hi
      exact ⟨hw.runs r hr, hw.requests r hr, hw.calls r hr, hw.fired⟩
  | none =>
      -- only a token fires without a run
      cases a with
      | fire token =>
          obtain rfl : m.fire token = n := by simpa [step] using h
          exact ⟨by simp, requestsOf_congr (by simp), callsOf_congr (by simp),
            fired_subset_fire m token⟩
      | _ => simp [Action.run?] at hi

/-- An action of a run is a move of its view. -/
theorem move_of_own (h : m.step a = some n) (ha : a.run? = some r) (hv : m.view? r = some v) :
    ∃ v', n.view? r = some v' ∧ Move r v a v' := by
  obtain ⟨w, v', hw, hmove, hwrites⟩ := writes_of_own h ha
  obtain rfl := Option.some.inj (hw.symm.trans hv)
  exact ⟨v', hwrites.view, hmove⟩

/-- The view of a run after its token has fired. -/
theorem view?_fire (hv : m.view? r = some v) :
    (m.fire v.run.job.token).view? r = some { v with cancelled := true } := by
  obtain ⟨hr, -, hq, hs⟩ := view?_eq_some_iff.1 hv
  obtain ⟨hr', hq', hs', -⟩ :=
    frame (m := m) (a := .fire v.run.job.token) rfl (by simp [Action.run?] : _ ≠ some r)
  exact view?_eq_some_iff.2 ⟨hr'.trans hr, by simp, hq'.trans hq, hs'.trans hs⟩

/-- **Every step is a move of every view.** -/
theorem move_of_step (h : m.step a = some n) (hv : m.view? r = some v) :
    ∃ v', n.view? r = some v' ∧ Move r v a v' := by
  by_cases ha : a.run? = some r
  · exact move_of_own h ha hv
  · obtain ⟨hr, hc, hq, hs⟩ := view?_eq_some_iff.1 hv
    obtain ⟨hr', hq', hs', hf⟩ := frame h ha
    refine ⟨{ v with cancelled := n.isCancelled v.run }, ?_, .other ha fun hcancelled => ?_⟩
    · exact view?_eq_some_iff.2 ⟨hr'.trans hr, rfl, hq'.trans hq, hs'.trans hs⟩
    · exact isCancelled_mono hf (hc.trans hcancelled)

/-- **A move of a run can be made**, a launch if the task has its slot. -/
theorem step_of_move {v' : View} (hv : m.view? r = some v) (h : Move r v a v')
    (ha : a.run? = some r) (hpool : ∀ i fires, a = .launch r i fires → m.pool.holds (r, i) = true) :
    ∃ n, m.step a = some n ∧ n.view? r = some v' := by
  obtain ⟨hr, hc, hq, hs⟩ := view?_eq_some_iff.1 hv
  suffices hn : ∃ n, m.step a = some n by
    obtain ⟨n, hn⟩ := hn
    obtain ⟨v'', hv'', h'⟩ := move_of_own hn ha hv
    exact ⟨n, hn, h.unique h' ha ▸ hv''⟩
  have htask : ∀ i t, v.run.tasks[i]? = some t → m.task? r i = some (v.run, t) :=
    fun i t ht => task?_eq_some_iff.2 ⟨hr, ht⟩
  cases h with
  | other ha' => exact absurd ha ha'
  | begin hs => exact ⟨_, step_begin_iff.2 ⟨v.run, hr, hs, rfl⟩⟩
  | notice hs hc' => exact ⟨_, step_notice_iff.2 ⟨v.run, hr, hc.trans hc', hs, rfl⟩⟩
  | request hs hc' => exact ⟨_, step_request_iff.2 ⟨v.run, _, _, hr, hs, hc.trans hc', rfl⟩⟩
  | exchange hs hc' => exact ⟨_, step_exchange_iff.2 ⟨v.run, _, _, hr, hs, hc.trans hc', rfl⟩⟩
  | reply hs hc' => exact ⟨_, step_reply_iff.2 ⟨v.run, _, _, hr, hs, hc.trans hc', rfl⟩⟩
  | queue ht => exact ⟨_, step_queue_iff.2 ⟨v.run, _, htask _ _ ht, rfl⟩⟩
  | launch ht =>
      exact ⟨_, step_launch_iff.2 ⟨v.run, _, htask _ _ ht, hpool _ _ rfl, rfl⟩⟩
  | answer ht => exact ⟨_, step_answer_iff.2 ⟨v.run, _, htask _ _ ht, rfl⟩⟩
  | die ht => exact ⟨_, step_die_iff.2 ⟨v.run, _, htask _ _ ht, rfl⟩⟩
  | drop ht => exact ⟨_, step_drop_iff.2 ⟨v.run, _, htask _ _ ht, rfl⟩⟩
  | collect hs hf hc' =>
      exact ⟨_, step_collect_iff.2 ⟨v.run, _, _, _, _, hr, hs, hf, hc.trans hc', rfl⟩⟩
  | gather hs => exact ⟨_, step_gather_iff.2 ⟨v.run, _, hr, hs, rfl⟩⟩
  | abandon hs => exact ⟨_, step_gather_iff.2 ⟨v.run, _, hr, hs, rfl⟩⟩
  | deliver hs hd => exact ⟨_, step_deliver_iff.2 ⟨v.run, _, _, hr, hs, hd, rfl⟩⟩
  | refuse hs => exact ⟨_, step_stored_error_iff.2 ⟨v.run, hr, hs, rfl⟩⟩
  | update hs hchanged =>
      exact ⟨_, step_stored_ok_iff.2 ⟨v.run, _, hr, .inl ⟨hs, hchanged, rfl⟩⟩⟩
  | finish hs => exact ⟨_, step_stored_ok_iff.2 ⟨v.run, _, hr, .inr ⟨hs, rfl⟩⟩⟩

/-! ### Paths -/

/-- Actions that happen one after another, from one machine to another. -/
inductive Path (m : Machine) : List Action → Machine → Prop where
  | nil : Path m [] m
  | snoc {acts : List Action} {n k : Machine} {a : Action} :
      Path m acts n → n.step a = some k → Path m (acts ++ [a]) k

/-- On the way of some actions from `m`, the machine `k` is about to do `a`. -/
def Takes (m : Machine) (acts : List Action) (k : Machine) (a : Action) : Prop :=
  ∃ before after, acts = before ++ a :: after ∧ m.Path before k

/-- A run of which nothing has been seen yet, with its job. -/
structure Fresh (m : Machine) (r : Nat) (job : Job) : Prop where
  run : m.runs[r]? = some { job }
  requests : m.requestsOf r = []
  calls : m.callsOf r = []

theorem Takes.append {acts more : List Action} {k : Machine} (h : m.Takes acts k a) :
    m.Takes (acts ++ more) k a := by
  obtain ⟨before, after, rfl, hk⟩ := h
  exact ⟨before, after ++ more, by simp, hk⟩

theorem Path.takes {acts : List Action} (h : m.Path acts n) (a : Action) :
    m.Takes (acts ++ [a]) n a := ⟨acts, [], rfl, h⟩

/-- The pool after some actions. -/
theorem Path.pool {acts : List Action} (h : m.Path acts n) :
    n.pool = acts.foldl Action.onPool m.pool := by
  induction h with
  | nil => rfl
  | snoc _ hs ih => rw [pool_of_step hs, ih, List.foldl_append]; rfl

/-- A machine that is to do some jobs, of which nothing is done yet. -/
def ofJobs (pool : Pool (Nat × Nat)) (jobs : List Job) : Machine :=
  { runs := jobs.map fun job => { job }, pool }

theorem fresh_ofJobs {jobs : List Job} {job : Job} (h : jobs[r]? = some job)
    (pool : Pool (Nat × Nat)) : (ofJobs pool jobs).Fresh r job where
  run := by simp [ofJobs, h]
  requests := rfl
  calls := rfl

/-- The view of a fresh run. -/
theorem Fresh.view {job : Job} (h : m.Fresh r job) :
    m.view? r = some ⟨{ job }, m.isCancelled { job }, [], []⟩ :=
  view?_eq_some_iff.2 ⟨h.run, rfl, h.requests, h.calls⟩

/-- **What holds of a view and is kept by every move of a path holds at its end.** -/
theorem Path.view_induction {I : List Action → View → Prop} {acts : List Action}
    (h : m.Path acts n) (hv : m.view? r = some v) (h0 : I [] v)
    (hstep : ∀ before k a v v', m.Takes acts k a → k.view? r = some v → I before v →
      Move r v a v' → I (before ++ [a]) v') :
    ∃ v', n.view? r = some v' ∧ I acts v' := by
  induction h with
  | nil => exact ⟨v, hv, h0⟩
  | snoc hp hs ih =>
      obtain ⟨w, hw, hi⟩ := ih fun before k a v v' ht => hstep before k a v v' ht.append
      obtain ⟨w', hw', hmove⟩ := move_of_step hs hw
      exact ⟨w', hw', hstep _ _ _ _ _ (hp.takes _) hw hi hmove⟩

/-- A path goes on with any move that the run can make. -/
theorem Path.move {acts : List Action} {v' : View} (h : m.Path acts n) (hv : n.view? r = some v)
    (hmove : Move r v a v') (ha : a.run? = some r)
    (hpool : ∀ i fires, a = .launch r i fires → n.pool.holds (r, i) = true) :
    ∃ k, m.Path (acts ++ [a]) k ∧ k.view? r = some v' := by
  obtain ⟨k, hs, hk⟩ := step_of_move hv hmove ha hpool
  exact ⟨k, h.snoc hs, hk⟩

/-! ### Playing actions -/

/-- The machine after some actions, if they can happen one after another. -/
def play (m : Machine) (acts : List Action) : Option Machine := acts.foldlM step m

/-- **A path is what playing its actions leads through.** -/
theorem path_iff {acts : List Action} : m.Path acts n ↔ m.play acts = some n := by
  constructor
  · intro h
    induction h with
    | nil => rfl
    | snoc _ hs ih =>
        simp only [play, List.foldlM_append, Option.bind_eq_bind] at ih ⊢
        simp [ih, hs]
  · intro h
    -- a path grows at its end, so the induction takes the last action off
    generalize hlength : acts.length = l
    induction l generalizing acts n with
    | zero =>
        obtain rfl := List.length_eq_zero_iff.1 hlength
        obtain rfl : m = n := by simpa [play] using h
        exact .nil
    | succ l ih =>
        obtain ⟨before, a, rfl⟩ : ∃ before a, acts = before ++ [a] :=
          ⟨_, _, (List.dropLast_concat_getLast (List.ne_nil_of_length_eq_add_one hlength)).symm⟩
        obtain ⟨k, hk, hs⟩ : ∃ k, m.play before = some k ∧ k.step a = some n := by
          simpa [play, List.foldlM_append, Option.bind_eq_some_iff] using h
        exact (ih hk (by simpa using hlength)).snoc hs

/-- The same actions lead to the same machine. -/
theorem Path.unique {acts : List Action} {n' : Machine} (h : m.Path acts n)
    (h' : m.Path acts n') : n = n' :=
  Option.some.inj ((path_iff.1 h).symm.trans (path_iff.1 h'))

/-- An action on the way of a path is its last one, or on the way before. -/
theorem Takes.of_snoc {acts : List Action} {k : Machine} {b : Action}
    (h : m.Takes (acts ++ [a]) k b) (hp : m.Path acts n) :
    m.Takes acts k b ∨ (k = n ∧ b = a) := by
  obtain ⟨before, after, heq, hk⟩ := h
  rcases List.eq_nil_or_concat after with rfl | ⟨after, c, rfl⟩
  · obtain ⟨rfl, hab⟩ := List.append_inj' heq rfl
    exact .inr ⟨hk.unique hp, by simpa using hab.symm⟩
  · rw [List.concat_eq_append, ← List.cons_append, ← List.append_assoc] at heq
    obtain ⟨rfl, -⟩ := List.append_inj' heq rfl
    exact .inl ⟨before, after, rfl, hk⟩

/-- A path that goes on where another one ends. -/
theorem Path.append {acts more : List Action} {k : Machine} (h : m.Path acts n)
    (h' : n.Path more k) : m.Path (acts ++ more) k := by
  induction h' with
  | nil => simpa using h
  | snoc _ hs ih =>
      rw [← List.append_assoc]
      exact ih.snoc hs

/-- A path goes through the machine before any of its actions, and through the one after it. -/
theorem Path.split {before after : List Action} (h : m.Path (before ++ a :: after) n) :
    ∃ k k', m.Path before k ∧ k.step a = some k' ∧ k'.Path after n := by
  have h := path_iff.1 h
  simp only [play, List.foldlM_append, List.foldlM_cons, Option.bind_eq_bind,
    Option.bind_eq_some_iff] at h
  obtain ⟨k, hk, k', hs, hn⟩ := h
  exact ⟨k, k', path_iff.2 hk, hs, path_iff.2 hn⟩

/-- The machine after an action on the way leads to the end. -/
theorem Takes.split {acts : List Action} {k : Machine} (h : m.Takes acts k a) (hp : m.Path acts n) :
    ∃ before k' after, acts = before ++ a :: after ∧ m.Path before k ∧ k.step a = some k' ∧
      k'.Path after n := by
  obtain ⟨before, after, rfl, hk⟩ := h
  obtain ⟨j, k', hj, hstep, hafter⟩ := hp.split
  obtain rfl := hk.unique hj
  exact ⟨before, k', after, rfl, hk, hstep, hafter⟩

end Machine

end Content

end ChapterAssembly
