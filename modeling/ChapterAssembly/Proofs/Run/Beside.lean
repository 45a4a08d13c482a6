/-
**Machines side by side.**

Two machines that differ in one run only can go the same way: whatever one of them does, the other
one can do as well, as long as the two runs, seen from within, can.  So a relation between the views
of the two runs that is kept by their own moves is kept along whole paths, and then the runs make
the same requests, and all other runs see no difference.  The storage alone may answer the two runs
at different moments, or not the same.

Main definitions:

* `Action.fires` — the token of the run that acts fires meanwhile;
* `Content.Paired` — a relation between two views of a run that their moves keep;
* `Machine.Beside` — two machines that differ in one run, whose views are related;
* `Content.unstored` — the actions but for the answers of the storage to one run.

Main results:

* `Machine.fired_of_step` — an action fires the token of its run or none;
* `Machine.Beside.step`, `Machine.Beside.path` — **what one machine does, the other one can do**;
* `Machine.Beside.paths` — machines that go the same way stay side by side.
-/

import ChapterAssembly.Proofs.Persistence
import ChapterAssembly.Proofs.Run.Tasks

set_option relaxedAutoImplicit false
set_option autoImplicit false

namespace ChapterAssembly

namespace Content

variable {r i : Nat} {v v' w : View} {a : Action} {m m' n n' : Machine}
  {R : View → View → Prop} {allowed : Action → Prop} {acts acts' : List Action}
  {result : Except StorageError Unit}

/-! ### Tokens that fire -/

/-- The token of the run that acts fires in the midst of the action. -/
def Action.fires : Action → Bool
  | .request _ fires => fires
  | .exchange _ _ fires => fires
  | .reply _ _ fires => fires
  | .launch _ _ fires => fires
  | .answer _ _ _ fires => fires
  | _ => false

namespace Machine

theorem fired_fire_congr (h : n.fired = m.fired) (token : Nat) :
    (n.fire token).fired = (m.fire token).fired := by
  unfold fire
  rw [h]
  split
  · exact h
  · rfl

theorem fired_fireIf_congr (h : n.fired = m.fired) (fires : Bool) (token : Nat) :
    (n.fireIf fires token).fired = (m.fireIf fires token).fired := by
  cases fires with
  | false => exact h
  | true => exact fired_fire_congr h token

/-- **An action fires the token of its run, or none.** -/
theorem fired_of_step {run : Run} (h : m.step a = some n) (ha : a.run? = some r)
    (hr : m.runs[r]? = some run) : n.fired = (m.fireIf a.fires run.job.token).fired := by
  have heq : ∀ run', m.runs[r]? = some run' → run' = run := fun run' hr' =>
    Option.some.inj (hr'.symm.trans hr)
  cases a with
  | fire token => cases ha
  | request i fires =>
      obtain rfl := Option.some.inj ha
      obtain ⟨run', w, url, hr', -, -, rfl⟩ := step_request_iff.1 h
      obtain rfl := heq run' hr'
      exact fired_fireIf_congr (by rfl) fires _
  | exchange i reply fires =>
      obtain rfl := Option.some.inj ha
      obtain ⟨run', w, url, hr', -, -, rfl⟩ := step_exchange_iff.1 h
      obtain rfl := heq run' hr'
      exact fired_fireIf_congr (by rfl) fires _
  | reply i reply fires =>
      obtain rfl := Option.some.inj ha
      obtain ⟨run', w, url, hr', -, -, rfl⟩ := step_reply_iff.1 h
      obtain rfl := heq run' hr'
      rfl
  | launch j i fires =>
      obtain rfl := Option.some.inj ha
      obtain ⟨run', url, ht, -, rfl⟩ := step_launch_iff.1 h
      obtain rfl := heq run' (task?_eq_some_iff.1 ht).1
      exact fired_fireIf_congr (by rfl) fires _
  | answer j i reply fires =>
      obtain rfl := Option.some.inj ha
      obtain ⟨run', url, ht, rfl⟩ := step_answer_iff.1 h
      obtain rfl := heq run' (task?_eq_some_iff.1 ht).1
      rfl
  | begin i =>
      obtain ⟨run', -, -, rfl⟩ := step_begin_iff.1 h
      rfl
  | notice i =>
      obtain ⟨run', -, -, -, rfl⟩ := step_notice_iff.1 h
      rfl
  | queue j i =>
      obtain ⟨run', url, -, rfl⟩ := step_queue_iff.1 h
      rfl
  | die j i message =>
      obtain ⟨run', url, -, rfl⟩ := step_die_iff.1 h
      rfl
  | drop j i =>
      obtain ⟨run', url, -, rfl⟩ := step_drop_iff.1 h
      rfl
  | collect i =>
      obtain ⟨run', first, texts, j, rest, -, -, -, -, rfl⟩ := step_collect_iff.1 h
      rfl
  | gather i =>
      obtain ⟨run', pages, -, -, rfl⟩ := step_gather_iff.1 h
      split <;> rfl
  | deliver i =>
      obtain ⟨run', pages, d, -, -, -, rfl⟩ := step_deliver_iff.1 h
      exact call_fired _ _
  | stored i result =>
      cases result with
      | error e =>
          obtain ⟨run', -, -, rfl⟩ := step_stored_error_iff.1 h
          rfl
      | ok u =>
          obtain ⟨run', s, -, ⟨-, -, rfl⟩ | ⟨-, rfl⟩⟩ := step_stored_ok_iff.1 h
          · exact call_fired _ _
          · rfl

/-- The tokens that have fired after an action depend on those before, and on the token of the run
that acts. -/
theorem fired_congr (hs : m.step a = some n) (hs' : m'.step a = some n') (hf : m'.fired = m.fired)
    (ht : ∀ (i : Nat) (run run' : Run), m.runs[i]? = some run → m'.runs[i]? = some run' →
      run'.job.token = run.job.token) : n'.fired = n.fired := by
  cases ha : a.run? with
  | none =>
      cases a with
      | fire token =>
          obtain rfl : m.fire token = n := by simpa [step] using hs
          obtain rfl : m'.fire token = n' := by simpa [step] using hs'
          exact fired_fire_congr hf token
      | _ => cases ha
  | some i =>
      obtain ⟨run, hr⟩ := exists_run_of_step hs ha
      obtain ⟨run', hr'⟩ := exists_run_of_step hs' ha
      rw [fired_of_step hs ha hr, fired_of_step hs' ha hr', ht i run run' hr hr']
      exact fired_fireIf_congr hf _ _

/-! ### Machines that differ in one run -/

/-- **Two machines that differ in run `r` only**, the views of which are related. -/
structure Beside (r : Nat) (R : View → View → Prop) (m m' : Machine) : Prop where
  others : ∀ i, i ≠ r → m'.view? i = m.view? i
  pool : m'.pool = m.pool
  fired : m'.fired = m.fired
  views : ∃ v v', m.view? r = some v ∧ m'.view? r = some v' ∧ R v v'

end Machine

/-- **A relation between two views of run `r` that their moves keep**, those by some actions. -/
structure Paired (r : Nat) (allowed : Action → Prop) (R : View → View → Prop) : Prop where
  token : ∀ {v v'}, R v v' → v'.run.job.token = v.run.job.token
  /-- When another run acts, both are cancelled or neither is. -/
  other : ∀ {v v' cancelled}, R v v' → (v.cancelled = true → cancelled = true) →
    R { v with cancelled } { v' with cancelled }
  own : ∀ {v v' a w}, R v v' → Move r v a w → a.run? = some r → allowed a →
    ∃ w', Move r v' a w' ∧ R w w'

namespace Machine

/-- The view of a run when another one has acted. -/
theorem view?_of_frame (h : m.step a = some n) (ha : a.run? ≠ some i) :
    n.view? i = (m.view? i).map fun v => { v with cancelled := n.isCancelled v.run } := by
  obtain ⟨hr, hq, hc, -⟩ := frame h ha
  simp only [view?, hr, hq, hc]
  cases m.runs[i]? <;> rfl

/-- Two machines show a run alike after another one has acted, if they did before. -/
theorem view?_congr (hs : m.step a = some n) (hs' : m'.step a = some n') (ha : a.run? ≠ some i)
    (hf : n'.fired = n.fired) (h : m'.view? i = m.view? i) : n'.view? i = n.view? i := by
  rw [view?_of_frame hs ha, view?_of_frame hs' ha, h]
  simp only [isCancelled, hf]

namespace Beside

/-- The runs of two machines side by side have the same tokens. -/
theorem token (h : m.Beside r R m') (hR : Paired r allowed R) (i : Nat) (run run' : Run)
    (hr : m.runs[i]? = some run) (hr' : m'.runs[i]? = some run') :
    run'.job.token = run.job.token := by
  by_cases hi : i = r
  · subst hi
    obtain ⟨v, v', hv, hv', hrel⟩ := h.views
    obtain rfl := Option.some.inj (hr.symm.trans (view?_eq_some_iff.1 hv).1)
    obtain rfl := Option.some.inj (hr'.symm.trans (view?_eq_some_iff.1 hv').1)
    exact hR.token hrel
  · have hview := h.others i hi
    simp only [view?, hr, hr', Option.map_some, Option.some.injEq, View.mk.injEq] at hview
    rw [hview.1]

/-- The run in which the machines differ acts in both of them. -/
theorem step_own (h : m.Beside r R m') (hR : Paired r allowed R) (hs : m.step a = some n)
    (hrun : a.run? = some r) (ha : allowed a) :
    ∃ n', m'.step a = some n' ∧ n.Beside r R n' := by
  obtain ⟨v, v', hv, hv', hrel⟩ := h.views
  obtain ⟨w, hw, hmove⟩ := move_of_step hs hv
  obtain ⟨w', hmove', hrel'⟩ := hR.own hrel hmove hrun ha
  obtain ⟨n', hs', hw'⟩ := step_of_move hv' hmove' hrun (by
    rintro i fires rfl
    obtain ⟨-, -, -, hholds, -⟩ := step_launch_iff.1 hs
    rwa [h.pool])
  have hf := fired_congr hs hs' h.fired (h.token hR)
  refine ⟨n', hs', fun i hi => ?_, ?_, hf, w, w', hw, hw', hrel'⟩
  · have hne : a.run? ≠ some i := fun heq => hi (Option.some.inj (heq.symm.trans hrun))
    exact view?_congr hs hs' hne hf (h.others i hi)
  · rw [pool_of_step hs, pool_of_step hs', h.pool]

/-- Another run acts in both machines, or a token fires. -/
theorem step_other (h : m.Beside r R m') (hR : Paired r allowed R) (hs : m.step a = some n)
    (hrun : a.run? ≠ some r) : ∃ n', m'.step a = some n' ∧ n.Beside r R n' := by
  obtain ⟨v, v', hv, hv', hrel⟩ := h.views
  -- the run that acts looks the same in both machines, and so does what it does
  obtain ⟨n', hs', hacts⟩ : ∃ n', m'.step a = some n' ∧
      ∀ i, a.run? = some i → n'.view? i = n.view? i := by
    cases ha : a.run? with
    | none =>
        cases a with
        | fire token => exact ⟨m'.fire token, rfl, by simp⟩
        | _ => cases ha
    | some i =>
        have hi : i ≠ r := fun heq => hrun (heq ▸ ha)
        obtain ⟨run, hr⟩ := exists_run_of_step hs ha
        have hu : m.view? i = some ⟨run, m.isCancelled run, m.requestsOf i, m.callsOf i⟩ :=
          view?_eq_some_iff.2 ⟨hr, rfl, rfl, rfl⟩
        obtain ⟨u, hu', hmove⟩ := move_of_step hs hu
        obtain ⟨n', hs', hn'⟩ := step_of_move ((h.others i hi).trans hu) hmove ha (by
          rintro j fires rfl
          obtain ⟨-, -, -, hholds, -⟩ := step_launch_iff.1 hs
          rwa [h.pool])
        refine ⟨n', hs', fun j hj => ?_⟩
        obtain rfl := Option.some.inj hj
        exact hn'.trans hu'.symm
  have hf := fired_congr hs hs' h.fired (h.token hR)
  refine ⟨n', hs', fun i hi => ?_, ?_, hf, ?_⟩
  · by_cases ha : a.run? = some i
    · exact hacts i ha
    · exact view?_congr hs hs' ha hf (h.others i hi)
  · rw [pool_of_step hs, pool_of_step hs', h.pool]
  · refine ⟨{ v with cancelled := n.isCancelled v.run },
      { v' with cancelled := n.isCancelled v.run }, ?_, ?_, hR.other hrel fun hc => ?_⟩
    · rw [view?_of_frame hs hrun, hv]
      rfl
    · rw [view?_of_frame hs' hrun, hv']
      simp only [Option.map_some, isCancelled, hf, hR.token hrel]
    · exact isCancelled_mono (frame hs hrun).2.2.2 ((view?_eq_some_iff.1 hv).2.1.trans hc)

/-- **What one machine does, the one beside it can do as well**, and stays beside it. -/
theorem step (h : m.Beside r R m') (hR : Paired r allowed R) (hs : m.step a = some n)
    (ha : allowed a) : ∃ n', m'.step a = some n' ∧ n.Beside r R n' := by
  by_cases hrun : a.run? = some r
  · exact h.step_own hR hs hrun ha
  · exact h.step_other hR hs hrun

/-- **The machines go the same way** as long as the actions are allowed. -/
theorem path (h : m.Beside r R m') (hR : Paired r allowed R) (hp : m.Path acts n)
    (ha : ∀ a ∈ acts, allowed a) : ∃ n', m'.Path acts n' ∧ n.Beside r R n' := by
  induction hp with
  | nil => exact ⟨m', .nil, h⟩
  | snoc _ hs ih =>
      obtain ⟨n', hp', hn⟩ := ih fun a hmem => ha a (List.mem_append_left _ hmem)
      obtain ⟨k', hs', hk⟩ := hn.step hR hs (ha _ (by simp))
      exact ⟨k', hp'.snoc hs', hk⟩

theorem symm (h : m.Beside r R m') : m'.Beside r (fun v' v => R v v') m := by
  obtain ⟨v, v', hv, hv', hrel⟩ := h.views
  exact ⟨fun i hi => (h.others i hi).symm, h.pool.symm, h.fired.symm, v', v, hv', hv, hrel⟩

/-- The storage answers the run in one of the machines. -/
theorem answered (h : m.Beside r R m') (hs : m.step (.stored r result) = some n)
    (hR : ∀ v v' w, R v v' → Move r v (.stored r result) w → R w v') : n.Beside r R m' := by
  obtain ⟨v, v', hv, hv', hrel⟩ := h.views
  obtain ⟨w, hw, hmove⟩ := move_of_step hs hv
  have hf : n.fired = m.fired := fired_of_step hs rfl (view?_eq_some_iff.1 hv).1
  refine ⟨fun i hi => ?_, ?_, h.fired.trans hf.symm, w, v', hw, hv', hR v v' w hrel hmove⟩
  · have hne : (Action.stored r result).run? ≠ some i := fun heq => hi (Option.some.inj heq).symm
    rw [h.others i hi, view?_of_frame hs hne]
    simp only [view?, isCancelled, hf, Option.map_map, Function.comp_def]
  · rw [h.pool, pool_of_step hs]
    rfl

end Beside

end Machine

/-! ### Machines that go the same way -/

theorem Action.answer?_eq_some_iff : a.answer? r = some result ↔ a = .stored r result := by
  cases a <;> simp [answer?]

/-- The actions but for the answers of the storage to run `r`. -/
def unstored (r : Nat) (acts : List Action) : List Action :=
  acts.filter fun a => (a.answer? r).isNone

theorem unstored_append (r : Nat) (acts acts' : List Action) :
    unstored r (acts ++ acts') = unstored r acts ++ unstored r acts' := List.filter_append ..

theorem unstored_answer (h : a.answer? r = some result) : unstored r [a] = [] := by
  simp [unstored, h]

theorem unstored_other (h : a.answer? r = none) : unstored r [a] = [a] := by
  simp [unstored, h]

theorem answersTo_append (r : Nat) (acts acts' : List Action) :
    answersTo r (acts ++ acts') = answersTo r acts ++ answersTo r acts' := List.filterMap_append

namespace Machine

/-- The storage answers the run in the second machine, maybe more than once. -/
theorem Beside.answers (h : m.Beside r R m')
    (hr : ∀ result v v' w, R v v' → Move r v' (.stored r result) w → R v w)
    (hp : m'.Path acts n') (hnil : unstored r acts = []) : m.Beside r R n' := by
  induction hp with
  | nil => exact h
  | @snoc acts n k a _ hs ih =>
      obtain ⟨hacts, hlast⟩ := List.append_eq_nil_iff.1 ((unstored_append ..).symm.trans hnil)
      cases ha : a.answer? r with
      | none => simp [unstored_other ha] at hlast
      | some result =>
          obtain rfl := Action.answer?_eq_some_iff.1 ha
          exact ((ih hacts).symm.answered hs fun v' v w => hr result v v' w).symm

/-- **Machines that go the same way stay side by side**, however and whenever the storage answers
the run in which they differ. -/
theorem Beside.paths (h : m.Beside r R m') (hR : Paired r (fun a => a.answer? r = none) R)
    (hl : ∀ result v v' w, R v v' → Move r v (.stored r result) w → R w v')
    (hr : ∀ result v v' w, R v v' → Move r v' (.stored r result) w → R v w)
    (hp : m.Path acts n) (hp' : m'.Path acts' n') (heq : unstored r acts' = unstored r acts) :
    n.Beside r R n' := by
  induction hp generalizing acts' n' with
  | nil => exact h.answers hr hp' heq
  | @snoc acts n k a hp hs ih =>
      cases ha : a.answer? r with
      | some result =>
          obtain rfl := Action.answer?_eq_some_iff.1 ha
          rw [unstored_append, unstored_answer ha, List.append_nil] at heq
          exact (ih hp' heq).answered hs (hl result)
      | none =>
          rw [unstored_append, unstored_other ha] at heq
          -- the other machine has done the same but for answers of the storage after it
          induction hp' with
          | nil => simp [unstored] at heq
          | @snoc acts' n' k' a' hp' hs' ih' =>
              rw [unstored_append] at heq
              cases ha' : a'.answer? r with
              | some result =>
                  obtain rfl := Action.answer?_eq_some_iff.1 ha'
                  rw [unstored_answer ha', List.append_nil] at heq
                  exact ((ih' heq).symm.answered hs' fun v' v w => hr result v v' w).symm
              | none =>
                  rw [unstored_other ha'] at heq
                  obtain ⟨hsame, hlast⟩ := List.append_inj' heq rfl
                  obtain rfl : a' = a := by simpa using hlast
                  obtain ⟨j, hj, hbeside⟩ := (ih hp' hsame).step hR hs ha
                  obtain rfl := Option.some.inj (hj.symm.trans hs')
                  exact hbeside

/-! ### Answers of the storage -/

/-- A run that brings the table of contents up to date ends once it is answered. -/
theorem exists_updated {s : Saving} (hv : n.view? r = some v) (hs : v.run.stage = .updating s)
    (x : Except StorageError Unit) : ∃ k w outcome, n.step (.stored r x) = some k ∧
      k.view? r = some w ∧ w.run.stage = .ended outcome := by
  cases x with
  | error e =>
      obtain ⟨k, hk, hw⟩ := step_of_move hv (.refuse (e := e) (by rw [hs]; rfl)) rfl (by simp)
      exact ⟨k, _, _, hk, hw, rfl⟩
  | ok u =>
      obtain ⟨k, hk, hw⟩ := step_of_move hv (.finish (.inr hs)) rfl (by simp)
      exact ⟨k, _, _, hk, hw, rfl⟩

/-- A run that waits for the storage ends once it is answered, at most twice. -/
theorem exists_stored (hv : n.view? r = some v) (hs : v.run.stage.stores = true)
    (x y : Except StorageError Unit) : ∃ acts k w outcome, n.Path acts k ∧ unstored r acts = [] ∧
      answersTo r acts <+: [x, y] ∧ k.view? r = some w ∧ w.run.stage = .ended outcome := by
  have once : ∀ {k w outcome}, n.step (.stored r x) = some k → k.view? r = some w →
      w.run.stage = .ended outcome → ∃ acts k w outcome, n.Path acts k ∧ unstored r acts = [] ∧
        answersTo r acts <+: [x, y] ∧ k.view? r = some w ∧ w.run.stage = .ended outcome :=
    fun hk hw hended => ⟨_, _, _, _, Path.nil.snoc hk, by simp [unstored, Action.answer?],
      by simp [answersTo, Action.answer?], hw, hended⟩
  cases hstage : v.run.stage with
  | updating s =>
      obtain ⟨k, w, outcome, hk, hw, hended⟩ := exists_updated hv hstage x
      exact once hk hw hended
  | saving s =>
      cases x with
      | error e =>
          obtain ⟨k, hk, hw⟩ := step_of_move hv (.refuse (e := e) hs) rfl (by simp)
          exact once hk hw rfl
      | ok u =>
          cases hchanged : s.changed with
          | false =>
              obtain ⟨k, hk, hw⟩ := step_of_move hv (.finish (.inl ⟨hstage, hchanged⟩)) rfl (by simp)
              exact once hk hw rfl
          | true =>
              obtain ⟨k, hk, hw⟩ := step_of_move hv (.update hstage hchanged) rfl (by simp)
              obtain ⟨k', w, outcome, hk', hw', hended⟩ := exists_updated hw rfl y
              exact ⟨_, k', w, outcome, (Path.nil.snoc hk).snoc hk',
                by simp [unstored, Action.answer?], by simp [answersTo, Action.answer?], hw', hended⟩
  | _ => simp [hstage, Stage.stores] at hs

/-- **The second machine can go the same way**, whatever the storage answers there. -/
theorem Beside.exists_paths (h : m.Beside r R m') (hR : Paired r (fun a => a.answer? r = none) R)
    (hl : ∀ result v v' w, R v v' → Move r v (.stored r result) w → R w v')
    (hr : ∀ result v v' w, R v v' → Move r v' (.stored r result) w → R v w)
    (hv' : m'.view? r = some v') (hs : v'.run.stage.stores = false) (hp : m.Path acts n)
    (x y : Except StorageError Unit) :
    ∃ acts' n' w, m'.Path acts' n' ∧ unstored r acts' = unstored r acts ∧
      answersTo r acts' <+: [x, y] ∧ n'.view? r = some w ∧ w.run.stage.stores = false ∧
      (answersTo r acts' = [] ∨ ∃ outcome, w.run.stage = .ended outcome) := by
  induction hp with
  | nil => exact ⟨[], m', v', .nil, rfl, by simp [answersTo], hv', hs, .inl rfl⟩
  | @snoc acts n k a hp hstep ih =>
      obtain ⟨acts', n', w, hp', hsame, hprefix, hw, hstores, hleft⟩ := ih
      cases ha : a.answer? r with
      | some result =>
          -- the answer to the first machine is none to the second one
          refine ⟨acts', n', w, hp', ?_, hprefix, hw, hstores, hleft⟩
          rw [unstored_append, unstored_answer ha, List.append_nil, hsame]
      | none =>
          have hbeside := h.paths hR hl hr hp hp' hsame
          obtain ⟨k', hk', -⟩ := hbeside.step hR hstep ha
          obtain ⟨w', hw', hmove⟩ := move_of_step hk' hw
          have hsame' : unstored r (acts' ++ [a]) = unstored r (acts ++ [a]) := by
            rw [unstored_append, unstored_append, hsame]
          have hanswers : answersTo r (acts' ++ [a]) = answersTo r acts' := by
            rw [answersTo_snoc, ha]
            simp
          cases hstores' : w'.run.stage.stores with
          | false =>
              refine ⟨_, k', w', hp'.snoc hk', hsame', hanswers ▸ hprefix, hw', hstores', ?_⟩
              rw [hanswers]
              exact hleft.imp_right (Exists.imp fun outcome hended => (hmove.of_ended hended).1)
          | true =>
              -- only now does the run ask the storage for something
              have hnone : answersTo r acts' = [] := by
                rcases hleft with hnone | ⟨outcome, hended⟩
                · exact hnone
                · simp [(hmove.of_ended hended).1, Stage.stores] at hstores'
              obtain ⟨more, k'', w'', outcome, hmore, hunstored, hprefix', hw'', hended⟩ :=
                exists_stored hw' hstores' x y
              refine ⟨_, k'', w'', (hp'.snoc hk').append hmore, ?_, ?_, hw'', ?_, .inr ⟨_, hended⟩⟩
              · rw [unstored_append, hunstored, List.append_nil, hsame']
              · rw [answersTo_append, hanswers, hnone]
                exact hprefix'
              · rw [hended]
                rfl

/-! ### Another job -/

/-- The machine with another job for a run. -/
def given (m : Machine) (r : Nat) (job : Job) : Machine := m.setRun r { job }

@[simp] theorem given_given (m : Machine) (r : Nat) (job job' : Job) :
    (m.given r job).given r job' = m.given r job' := by
  simp [given, setRun]

theorem Fresh.given {job : Job} (hm : m.Fresh r job) (job' : Job) :
    (m.given r job').Fresh r job' :=
  ⟨getElem?_set_of_eq_some hm.run _, hm.requests, hm.calls⟩

/-- A machine, beside itself with another job for a run. -/
theorem Fresh.beside {job job' : Job} (hm : m.Fresh r job) (htoken : job'.token = job.token)
    (hR : ∀ cancelled, R ⟨{ job }, cancelled, [], []⟩ ⟨{ job := job' }, cancelled, [], []⟩) :
    m.Beside r R (m.given r job') := by
  refine ⟨fun i hi => ?_, rfl, rfl, _, _, hm.view, (hm.given job').view, ?_⟩
  · simp only [view?, Machine.given, setRun_runs, List.getElem?_set_ne (Ne.symm hi)]
    rfl
  · have hcancelled : (m.given r job').isCancelled { job := job' } = m.isCancelled { job } := by
      simp only [isCancelled, Machine.given, setRun_fired, htoken]
    rw [hcancelled]
    exact hR _

end Machine

end Content

end ChapterAssembly
