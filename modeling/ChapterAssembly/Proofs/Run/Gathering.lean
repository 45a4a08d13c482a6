/-
**Runs that wait for their tasks.**

A run whose pages are fetched side by side waits until all its tasks have found a text, or one of
them has failed, or its token has fired.  From then on it has done with its tasks: none of them is
live, and it requests nothing any more.

Main definitions:

* `Run.Idle` — a run that has done with its tasks;
* `Gathering` — a run that waits for its tasks;
* `Gathering.Becomes` — what can become of it.

Main results:

* `Move.of_idle` — a run that has done with its tasks requests nothing;
* `Gathering.of_spread` — a run that spreads out waits for its tasks;
* `Move.of_gathering` — what a move makes of a run that waits for its tasks.
-/

import ChapterAssembly.Proofs.Run.Tasks

set_option relaxedAutoImplicit false
set_option autoImplicit false

namespace ChapterAssembly

namespace Content

variable {job : Job} {first : Extracted} {r i : Nat} {url : Text} {a : Action} {e : ContentError}
  {v v' : View} {texts : List (Option Text)}

/-! ### Runs that have done with their tasks -/

/-- A run that has begun and waits for nothing, and none of whose tasks is live. -/
structure Run.Idle (run : Run) : Prop where
  begun : run.stage ≠ .fresh
  waits : run.stage.waits = false
  tasks : ∀ t ∈ run.tasks, t.state.isLive = false

@[simp] theorem TaskState.isLive_stop (s : TaskState) : s.stop.isLive = false := by
  cases s <;> rfl

theorem Run.not_isLive_fail (run : Run) : ∀ t ∈ (run.fail e).tasks, t.state.isLive = false := by
  intro t ht
  obtain ⟨u, -, rfl⟩ := List.mem_map.1 ht
  exact u.state.isLive_stop

theorem Run.idle_fail (run : Run) : (run.fail e).Idle := ⟨by simp, rfl, run.not_isLive_fail⟩

/-- No task of a run becomes live once it has begun. -/
theorem Move.not_isLive (h : Move r v a v') (hs : v.run.stage ≠ .fresh)
    (ht : ∀ t ∈ v.run.tasks, t.state.isLive = false) :
    ∀ t ∈ v'.run.tasks, t.state.isLive = false := by
  rcases h.tasks with heq | heq | ⟨-, hfresh, -⟩ | ⟨i, url, s, s', hi, hm, heq, -⟩
  · exact heq ▸ ht
  · intro t hmem
    obtain ⟨u, -, rfl⟩ := List.mem_map.1 (heq ▸ hmem)
    exact u.state.isLive_stop
  · exact absurd hfresh hs
  · intro t hmem
    rcases Run.mem_setTask (heq ▸ hmem) with hmem | hstate
    · exact ht t hmem
    · have hlive := ht _ (List.mem_of_getElem? hi)
      cases hm with
      | drop => rw [hstate]; rfl
      | _ => cases hlive

/-- **A run that has done with its tasks requests nothing.** -/
theorem Move.of_idle (h : Move r v a v') (hi : v.run.Idle) :
    v'.run.Idle ∧ v'.requests = v.requests ∧ ∀ i fires, a ≠ .launch r i fires := by
  refine ⟨⟨fun hs => hi.begun (h.of_fresh hs).1, ?_, h.not_isLive hi.begun hi.tasks⟩, ?_⟩
  · have hwaits := hi.waits
    cases h with
    | begin hs => exact absurd hs hi.begun
    | notice | abandon | refuse | gather | update | finish => rfl
    | deliver =>
        rcases Run.delivered_ends v.run v.cancelled _ _ with hs | ⟨outcome, hs⟩
        · revert hs
          cases (v.run.delivered v.cancelled _ _).stage <;> simp [Stage.stores, Stage.waits]
        · rw [hs]
          rfl
    | exchange hs | reply hs | collect hs | request hs => rw [hs] at hwaits; cases hwaits
    | _ => exact hwaits
  · rcases h.requests with h | ⟨w, url, hs, -⟩ | ⟨i, url, fires, -, ht, -⟩
    · exact h
    · have hwaits := hi.waits
      rw [hs] at hwaits
      cases hwaits
    · have hlive := hi.tasks _ (List.mem_of_getElem? ht)
      cases hlive

/-! ### Runs that wait for their tasks -/

/-- **A run that waits for its tasks**, one for each page that is named. -/
structure Gathering (first : Extracted) (v : View) (texts : List (Option Text)) : Prop where
  stage : v.run.stage = .spreading first.text texts
  tasks : v.run.tasks.map (·.url) = first.next
  length : texts.length = first.next.length
  /-- Only tasks that have ended are to be looked at. -/
  finished : ∀ j ∈ v.run.finished, ∃ url outcome, v.run.tasks[j]? = some ⟨url, .ended outcome⟩
  /-- There is no text of a task that has not ended with one. -/
  missing : ∀ (j : Nat) (t : Task), v.run.tasks[j]? = some t →
    (∀ found, t.state ≠ .ended (.ok found)) → texts[j]? = some none
  calls : v.calls = []

@[simp] theorem Run.urls_setTask (run : Run) (j : Nat) (s : TaskState) :
    (run.setTask j s).tasks.map (·.url) = run.tasks.map (·.url) := by
  refine List.ext_getElem? fun k => ?_
  simp only [setTask, List.getElem?_map, List.getElem?_modify]
  by_cases hjk : j = k <;> simp [hjk, Function.comp_def]

theorem TaskMove.ne_ended {s s' : TaskState} (h : TaskMove r job i url a s s')
    (outcome : Except ContentError Text) : s ≠ .ended outcome := by
  cases h <;> simp

/-- A run waits on while one of its tasks goes on. -/
theorem Gathering.goesOn {j : Nat} {s s' : TaskState} (hg : Gathering first v texts)
    (ht : v.run.tasks[j]? = some ⟨url, s⟩) (hm : TaskMove r v.run.job j url a s s')
    (hstage : v'.run.stage = v.run.stage) (htasks : v'.run.tasks = (v.run.setTask j s').tasks)
    (hcalls : v'.calls = v.calls) (hfinished : v'.run.finished = v.run.finished ∨
      (v'.run.finished = v.run.finished ++ [j] ∧ ∃ outcome, s' = .ended outcome)) :
    Gathering first v' texts where
  stage := hstage.trans hg.stage
  tasks := by rw [htasks, Run.urls_setTask, hg.tasks]
  length := hg.length
  finished := by
    intro k hk
    rw [htasks]
    by_cases hjk : j = k
    · subst hjk
      rcases hfinished with hf | ⟨-, outcome, rfl⟩
      · obtain ⟨url', outcome, hended⟩ := hg.finished j (hf ▸ hk)
        obtain ⟨-, rfl⟩ : url = url' ∧ s = .ended outcome := by simpa [ht] using hended
        exact absurd rfl (hm.ne_ended outcome)
      · exact ⟨url, outcome, by simp [Run.setTask, ht]⟩
    · have hk : k ∈ v.run.finished := by
        rcases hfinished with hf | ⟨hf, -⟩
        · exact hf ▸ hk
        · simpa [hf, Ne.symm hjk] using hk
      simpa [Run.setTask, hjk] using hg.finished k hk
  missing := by
    intro k t hk hnot
    rw [htasks, Run.setTask, List.getElem?_modify] at hk
    by_cases hjk : j = k
    · subst hjk
      exact hg.missing j _ ht fun found => hm.ne_ended _
    · exact hg.missing k t (by simpa [hjk] using hk) hnot
  calls := hcalls.trans hg.calls

/-- A run that looks at a task that has found a text waits on, unless all tasks have. -/
theorem Gathering.collect {j : Nat} {rest : List Nat} {found : Text}
    (hg : Gathering first v texts) (hf : v.run.finished = j :: rest)
    (ht : v.run.tasks[j]? = some ⟨url, .ended (.ok found)⟩) :
    (v.run.collect j first.text texts).finished = rest ∧
      (v.run.collect j first.text texts).tasks = v.run.tasks ∧
      (Gathering first { v with run := v.run.collect j first.text texts }
          (texts.set j (some found)) ∨
        ((v.run.collect j first.text texts).Idle ∧
          ∀ t ∈ v.run.tasks, ∃ found, t.state = .ended (.ok found))) := by
  have hmissing : ∀ (k : Nat) (t : Task), v.run.tasks[k]? = some t →
      (∀ found, t.state ≠ .ended (.ok found)) → (texts.set j (some found))[k]? = some none := by
    intro k t hk hnot
    have hjk : j ≠ k := by
      rintro rfl
      obtain rfl : ⟨url, .ended (.ok found)⟩ = t := by simpa [ht] using hk
      exact hnot found rfl
    rw [List.getElem?_set_ne hjk]
    exact hg.missing k t hk hnot
  have hfinished : (v.run.collect j first.text texts).finished = rest := by
    simp [Run.collect, ht, hf]
  have htasks : (v.run.collect j first.text texts).tasks = v.run.tasks := by
    simp [Run.collect, ht]
  refine ⟨hfinished, htasks, ?_⟩
  cases hall : (texts.set j (some found)).all Option.isSome with
  | false =>
      refine .inl ⟨?_, ?_, ?_, ?_, ?_, hg.calls⟩
      · simp [Run.collect, ht, hall]
      · rw [htasks, hg.tasks]
      · rw [List.length_set, hg.length]
      · rw [hfinished, htasks]
        exact fun k hk => hg.finished k (by simp [hf, hk])
      · rw [htasks]
        exact hmissing
  | true =>
      -- a task without a text would have left its place empty
      have hfound : ∀ t ∈ v.run.tasks, ∃ found, t.state = .ended (.ok found) := by
        intro t hmem
        obtain ⟨k, hk⟩ := List.mem_iff_getElem?.1 hmem
        by_contra hnot
        push Not at hnot
        have hnone := List.all_eq_true.1 hall none (List.mem_of_getElem? (hmissing k t hk hnot))
        cases hnone
      refine .inr ⟨⟨?_, ?_, ?_⟩, hfound⟩
      · simp [Run.collect, ht, hall]
      · simp [Run.collect, ht, hall, Stage.waits]
      · intro t hmem
        obtain ⟨found, hstate⟩ := hfound t (htasks ▸ hmem)
        rw [hstate]
        rfl

/-- A run that spreads out over several pages waits for a task for each of them. -/
theorem Gathering.of_spread (first : Extracted) (run : Run) (htwo : 2 ≤ first.next.length)
    (hf : run.finished = []) (cancelled : Bool) (requests : List (Option Nat × FetchTarget)) :
    Gathering first ⟨run.spread first.text first.next, cancelled, requests, []⟩
      (first.next.map fun _ => none) := by
  rw [run.spread_of_many _ htwo]
  refine ⟨rfl, by simp [Function.comp_def], by simp, by simp [hf], ?_, rfl⟩
  intro j t hj _
  simp only [List.getElem?_map, Option.map_eq_some_iff] at hj ⊢
  obtain ⟨url, hurl, -⟩ := hj
  exact ⟨url, hurl, trivial⟩

/-- What becomes in a move of a run that waits for its tasks. -/
inductive Gathering.Becomes (first : Extracted) (v v' : View) : Prop
  | waits {texts : List (Option Text)} (hg : Gathering first v' texts)
      (hf : v.run.finished <+: v'.run.finished)
  /-- It has looked at a task that has found a text, -/
  | filled {j : Nat} {url found : Text} {texts : List (Option Text)}
      (ht : v.run.tasks[j]? = some ⟨url, .ended (.ok found)⟩)
      (hf : v.run.finished = j :: v'.run.finished) (hg : Gathering first v' texts)
  /-- or at the last one, -/
  | complete (ht : ∀ t ∈ v.run.tasks, ∃ found, t.state = .ended (.ok found)) (hi : v'.run.Idle)
  /-- or at one that has failed, -/
  | failed {j : Nat} {rest : List Nat} {url : Text} {e : ContentError}
      (hc : v.cancelled = false) (hf : v.run.finished = j :: rest)
      (ht : v.run.tasks[j]? = some ⟨url, .ended (.error e)⟩)
      (hv : v' = { v with run := v.run.fail e })
  /-- or it sees that its token has fired. -/
  | noticed (hc : v.cancelled = true) (hv : v' = { v with run := v.run.fail .cancelled })

/-- **Every move of a run that waits for its tasks** leaves it waiting, or ends it by a failure, or
gives it the last of its pages. -/
theorem Move.of_gathering (h : Move r v a v') (hg : Gathering first v texts) :
    Gathering.Becomes first v v' := by
  cases h with
  | other =>
      exact .waits ⟨hg.stage, hg.tasks, hg.length, hg.finished, hg.missing, hg.calls⟩
        List.prefix_rfl
  | queue ht => exact .waits (hg.goesOn ht (.queue (r := r)) rfl rfl rfl (.inl rfl)) List.prefix_rfl
  | launch ht =>
      exact .waits (hg.goesOn ht (.launch (r := r) false) rfl rfl rfl (.inl rfl)) List.prefix_rfl
  | drop ht => exact .waits (hg.goesOn ht (.drop (r := r)) rfl rfl rfl (.inl rfl)) List.prefix_rfl
  | answer ht =>
      exact .waits (hg.goesOn ht (.answer (r := r) _ false) rfl rfl rfl (.inr ⟨rfl, _, rfl⟩))
        (List.prefix_append _ _)
  | die ht =>
      exact .waits (hg.goesOn ht (.die (r := r) _) rfl rfl rfl (.inr ⟨rfl, _, rfl⟩))
        (List.prefix_append _ _)
  | notice hs hc => exact .noticed hc rfl
  | @collect text texts' j rest hs hf hc =>
      obtain ⟨rfl, rfl⟩ : first.text = text ∧ texts = texts' := by simpa [hg.stage] using hs
      obtain ⟨url, outcome, ht⟩ := hg.finished j (by simp [hf])
      cases outcome with
      | error e => exact .failed hc hf ht (by simp [Run.collect, ht])
      | ok found =>
          obtain ⟨hfinished, -, hg' | ⟨hi, hall⟩⟩ := hg.collect hf ht
          · exact .filled ht (by rw [hf, hfinished]) hg'
          · exact .complete hall hi
  | refuse hs => simp [hg.stage, Stage.stores] at hs
  | finish hs => simp [hg.stage] at hs
  | begin hs | request hs | exchange hs | reply hs | gather hs | abandon hs | deliver hs
  | update hs => simp [hg.stage] at hs

end Content

end ChapterAssembly
