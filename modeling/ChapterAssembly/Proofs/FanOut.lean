/-
**Pages fetched side by side.**

A chapter whose first page names several further pages is read by tasks, one for each page, which
wait for slots, fetch and end in any order.  What a task finds goes into a *slot* of its own, at
the position of its page; whichever task ends first, every slot is filled once, with the text of
its own page, and in the end the texts stand in reading order.

Main definitions:

* `Job.requestFor`, `Job.requestsFor` — the requests for the pages that the first page names;
* `Slot` — how far the task at one position has come, and what stands in its slot;
* `Slots` — the tasks of a run with their slots;
* `Fan` — the stages of a run whose pages are fetched side by side;
* `Job.Reads` — what the rules find on a further page;
* `FansOut` — what is promised of pages that are fetched side by side.

Main results:

* `Slots.texts_eq`, `Slots.perm` — slots that are all filled hold the texts in reading order, and
  each page was requested once;
* `Move.slots`, `Move.fan` — what every move keeps;
* `Machine.Path.fansOut` — **pages fetched side by side stand in reading order**.

Mathlib is imported as a whole for the equations by which `cbv` evaluates a page.
-/

import Mathlib
import ChapterAssembly.Proofs.Run.Stage

set_option relaxedAutoImplicit false
set_option autoImplicit false

namespace ChapterAssembly

namespace Content

/-! ### Requests -/

namespace Job

/-- The request for the page at a position. -/
def requestFor (job : Job) (i : Nat) (url : Text) : Option Nat × FetchTarget :=
  (some i, ⟨url, job.source.headers⟩)

/-- The requests for all pages that are named, each once. -/
def requestsFor (job : Job) (next : List Text) : List (Option Nat × FetchTarget) :=
  next.zipIdx.map fun (url, i) => job.requestFor i url

theorem mem_requestsFor {job : Job} {next : List Text} {q : Option Nat × FetchTarget} :
    q ∈ job.requestsFor next ↔ ∃ i url, next[i]? = some url ∧ q = job.requestFor i url := by
  simp only [requestsFor, List.mem_map, Prod.exists, List.mem_zipIdx_iff_getElem?]
  constructor
  · rintro ⟨url, i, h, rfl⟩
    exact ⟨i, url, h, rfl⟩
  · rintro ⟨i, url, h, rfl⟩
    exact ⟨url, i, h, rfl⟩

theorem requestsFor_nodup (job : Job) (next : List Text) : (job.requestsFor next).Nodup := by
  have hpositions : (next.zipIdx.map Prod.snd).Nodup := by
    rw [List.zipIdx_map_snd]
    exact List.nodup_range' 1
  refine List.pairwise_map.2 ((List.pairwise_map.1 hpositions).imp fun hne heq => hne ?_)
  simpa [requestFor] using congrArg Prod.fst heq

/-- The requests for two positions differ. -/
theorem requestFor_ne {job : Job} {i j : Nat} (h : i ≠ j) (url url' : Text) :
    job.requestFor i url ≠ job.requestFor j url' := by
  intro heq
  exact h (by simpa [requestFor] using congrArg Prod.fst heq)

end Job

/-! ### Slots -/

/-- **How far the task at one position has come**, whether its page was requested, whether it waits
to be looked at, and what stands in its slot. -/
inductive Slot (text : Text) (requested waits : Prop) : TaskState → Option Text → Prop
  | spawned (hq : ¬ requested) (hw : ¬ waits) : Slot text requested waits .spawned none
  | queued (hq : ¬ requested) (hw : ¬ waits) : Slot text requested waits .queued none
  | fetching (hq : requested) (hw : ¬ waits) : Slot text requested waits .fetching none
  | waiting (hq : requested) (hw : waits) : Slot text requested waits (.ended (.ok text)) none
  | filled (hq : requested) (hw : ¬ waits) :
      Slot text requested waits (.ended (.ok text)) (some text)

/-- The tasks of a run, each with its slot. -/
structure Slots (job : Job) (next : List Text) (text : Nat → Text) (v : View)
    (texts : List (Option Text)) : Prop where
  /-- There is a task for each page that is named, -/
  tasks : v.run.tasks.map (·.url) = next
  /-- and a slot for each task. -/
  length : texts.length = next.length
  finished : v.run.finished.Nodup
  /-- No page is requested twice, -/
  nodup : v.requests.Nodup
  /-- and nothing else is requested. -/
  known : ∀ q ∈ v.requests, q ∈ job.requestsFor next
  slot : ∀ (i : Nat) (t : Task), v.run.tasks[i]? = some t → ∃ found, texts[i]? = some found ∧
    Slot (text i) (job.requestFor i t.url ∈ v.requests) (i ∈ v.run.finished) t.state found

namespace Slots

variable {job : Job} {next : List Text} {text : Nat → Text} {v : View}
  {texts : List (Option Text)}

theorem length_tasks (h : Slots job next text v texts) : v.run.tasks.length = next.length := by
  rw [← h.tasks, List.length_map]

/-- If all slots are filled, every task has ended with the text of its page. -/
theorem filled (h : Slots job next text v texts) (hall : texts.all Option.isSome = true) {i : Nat}
    {t : Task} (ht : v.run.tasks[i]? = some t) : texts[i]? = some (some (text i)) ∧
      t.state = .ended (.ok (text i)) ∧ job.requestFor i t.url ∈ v.requests := by
  obtain ⟨found, hfound, hslot⟩ := h.slot i t ht
  have hsome : found.isSome = true :=
    List.all_eq_true.1 hall found (List.mem_of_getElem? hfound)
  generalize hstate : t.state = state at hslot
  cases hslot with
  | filled hq => exact ⟨hfound, rfl, hq⟩
  | _ => cases hsome

/-- **Slots that are all filled hold the texts in reading order.** -/
theorem texts_eq (h : Slots job next text v texts) (hall : texts.all Option.isSome = true) :
    texts = (List.range next.length).map fun i => some (text i) := by
  refine List.ext_getElem? fun i => ?_
  rcases Nat.lt_or_ge i next.length with hi | hi
  · have hlt : i < v.run.tasks.length := by rwa [h.length_tasks]
    rw [(h.filled hall (List.getElem?_eq_getElem hlt)).1]
    simp [hi]
  · rw [List.getElem?_eq_none (by rwa [h.length])]
    simp [hi]

/-- **Then each page was requested once.** -/
theorem perm (h : Slots job next text v texts) (hall : texts.all Option.isSome = true) :
    v.requests.Perm (job.requestsFor next) := by
  -- neither list has a request twice, so it is enough that they have the same requests
  refine (List.perm_ext_iff_of_nodup h.nodup (job.requestsFor_nodup next)).2 fun q =>
    ⟨h.known q, fun hq => ?_⟩
  obtain ⟨i, url, hi, rfl⟩ := Job.mem_requestsFor.1 hq
  obtain ⟨t, ht, rfl⟩ : ∃ t, v.run.tasks[i]? = some t ∧ t.url = url := by
    simpa [← h.tasks] using hi
  exact (h.filled hall ht).2.2

/-- A task that goes on leaves the slots of all others as they are. -/
theorem goesOn {v' : View} {i : Nat} {url : Text} {s s' : TaskState}
    (h : Slots job next text v texts) (ht : v.run.tasks[i]? = some ⟨url, s⟩)
    (htasks : v'.run.tasks = (v.run.setTask i s').tasks)
    (hfinished : v'.run.finished = v.run.finished ∨
      (i ∉ v.run.finished ∧ v'.run.finished = v.run.finished ++ [i]))
    (hrequests : v'.requests = v.requests ∨ (job.requestFor i url ∉ v.requests ∧
      v'.requests = v.requests ++ [job.requestFor i url]))
    (hslot : ∀ found,
      Slot (text i) (job.requestFor i url ∈ v.requests) (i ∈ v.run.finished) s found →
      Slot (text i) (job.requestFor i url ∈ v'.requests) (i ∈ v'.run.finished) s' found) :
    Slots job next text v' texts where
  tasks := by
    rw [htasks, ← h.tasks, Run.setTask]
    refine List.ext_getElem? fun j => ?_
    simp only [List.getElem?_map, List.getElem?_modify]
    by_cases hij : i = j <;> simp [hij, Function.comp_def]
  length := h.length
  finished := by
    rcases hfinished with hf | ⟨hi, hf⟩
    · rw [hf]
      exact h.finished
    · rw [hf, List.nodup_append]
      refine ⟨h.finished, by simp, ?_⟩
      rintro j hj _ hj' rfl
      exact hi (by simpa [← List.mem_singleton.1 hj'] using hj)
  nodup := by
    rcases hrequests with hq | ⟨hi, hq⟩
    · rw [hq]
      exact h.nodup
    · rw [hq, List.nodup_append]
      refine ⟨h.nodup, by simp, ?_⟩
      rintro q hq' _ hq'' rfl
      exact hi (by simpa [← List.mem_singleton.1 hq''] using hq')
  known := by
    intro q hq
    rcases hrequests with heq | ⟨-, heq⟩
    · exact h.known q (heq ▸ hq)
    · rcases List.mem_append.1 (heq ▸ hq) with hq | hq
      · exact h.known q hq
      · refine Job.mem_requestsFor.2 ⟨i, url, ?_, List.mem_singleton.1 hq⟩
        rw [← h.tasks, List.getElem?_map, ht]
        rfl
  slot := by
    intro j t hj
    rw [htasks, Run.setTask, List.getElem?_modify] at hj
    by_cases hij : i = j
    · subst hij
      obtain rfl : ⟨url, s'⟩ = t := by simpa [ht] using hj
      obtain ⟨found, hfound, hold⟩ := h.slot i _ ht
      exact ⟨found, hfound, hslot found hold⟩
    · obtain ⟨found, hfound, hold⟩ := h.slot j t (by simpa [hij] using hj)
      -- another position is neither requested nor finished by this
      have hq : job.requestFor j t.url ∈ v'.requests ↔ job.requestFor j t.url ∈ v.requests := by
        rcases hrequests with heq | ⟨-, heq⟩ <;> simp [heq, Job.requestFor_ne (Ne.symm hij)]
      have hf : j ∈ v'.run.finished ↔ j ∈ v.run.finished := by
        rcases hfinished with heq | ⟨-, heq⟩ <;> simp [heq, Ne.symm hij]
      exact ⟨found, hfound, by rwa [hq, hf]⟩

/-- A task that is looked at fills its slot. -/
theorem collect {v' : View} {i : Nat} {rest : List Nat} (h : Slots job next text v texts)
    (hf : v.run.finished = i :: rest) (htasks : v'.run.tasks = v.run.tasks)
    (hf' : v'.run.finished = rest) (hq : v'.requests = v.requests) :
    Slots job next text v' (texts.set i (some (text i))) where
  tasks := htasks ▸ h.tasks
  length := by rw [List.length_set, h.length]
  finished := by
    have := h.finished
    rw [hf, List.nodup_cons] at this
    exact hf' ▸ this.2
  nodup := hq ▸ h.nodup
  known := hq ▸ h.known
  slot := by
    intro j t hj
    obtain ⟨found, hfound, hold⟩ := h.slot j t (htasks ▸ hj)
    have hi : i ∉ rest := by
      have := h.finished
      rw [hf, List.nodup_cons] at this
      exact this.1
    rw [hq, hf']
    by_cases hij : i = j
    · subst hij
      refine ⟨some (text i), ?_, ?_⟩
      · rw [List.getElem?_set_self (List.getElem?_eq_some_iff.1 hfound).1]
      · generalize t.state = state at hold ⊢
        cases hold with
        | waiting hq => exact .filled hq hi
        | spawned _ hw => exact absurd (by simp [hf]) hw
        | queued _ hw => exact absurd (by simp [hf]) hw
        | fetching _ hw => exact absurd (by simp [hf]) hw
        | filled _ hw => exact absurd (by simp [hf]) hw
    · refine ⟨found, by rw [List.getElem?_set_ne hij, hfound], ?_⟩
      rwa [hf, List.mem_cons, or_iff_right (Ne.symm hij)] at hold

end Slots

/-! ### Moves -/

variable {job : Job} {first : Extracted} {next : List Text} {text : Nat → Text} {v v' : View}
  {texts : List (Option Text)} {r : Nat} {a : Action}

/-- The pages of a chapter, each with the text that stands at its position. -/
def pagesOf (first : Extracted) (text : Nat → Text) : Pages :=
  ⟨first.text :: (List.range first.next.length).map text⟩

/-- **Every move of a run that waits for its tasks keeps their slots**, and the run goes on when all
slots are filled. -/
theorem Move.slots (h : Move r v a v') (hs : v.run.stage = .spreading first.text texts)
    (hi : Slots v.run.job first.next text v texts) (hc : v'.cancelled = false)
    (hanswer : ∀ i url reply fires, a = .answer r i reply fires →
      v.run.tasks[i]? = some ⟨url, .fetching⟩ →
      (readReply v.run.job.source.rules false url reply).map (·.text) = .ok (text i))
    (hdie : ∀ i message, a ≠ .die r i message) :
    ∃ texts', Slots v.run.job first.next text v' texts' ∧
      (v'.run.stage = .spreading first.text texts' ∨
        (texts'.all Option.isSome = true ∧ v'.run.stage = .gathered (pagesOf first text))) := by
  have hactive := h.active_of_active hc
  cases h with
  | other => exact ⟨texts, ⟨hi.tasks, hi.length, hi.finished, hi.nodup, hi.known, hi.slot⟩, .inl hs⟩
  | queue ht =>
      refine ⟨texts, hi.goesOn ht rfl (.inl rfl) (.inl rfl) fun found hslot => ?_, .inl hs⟩
      cases hslot with
      | spawned hq hw => exact .queued hq hw
  | @launch i url fires ht =>
      obtain ⟨found, -, hslot⟩ := hi.slot i _ ht
      have hq : v.run.job.requestFor i url ∉ v.requests := by
        cases hslot with
        | queued hq => exact hq
      refine ⟨texts, hi.goesOn ht rfl (.inl rfl) (.inr ⟨hq, rfl⟩) fun found hslot => ?_, .inl hs⟩
      cases hslot with
      | queued _ hw => exact .fetching (by simp [Job.requestFor, Run.target]) hw
  | @answer i url reply fires ht =>
      obtain ⟨found, -, hslot⟩ := hi.slot i _ ht
      have hw : i ∉ v.run.finished := by
        cases hslot with
        | fetching _ hw => exact hw
      rw [hanswer i url reply fires rfl ht]
      refine ⟨texts, hi.goesOn ht rfl (.inr ⟨hw, rfl⟩) (.inl rfl) fun found hslot => ?_, .inl hs⟩
      cases hslot with
      | fetching hq _ => exact .waiting hq (by simp [Run.endTask])
  | @die i url message ht => exact absurd rfl (hdie i message)
  | @drop i url ht =>
      -- no task is told to stop as long as the run waits for all of them
      obtain ⟨found, -, hslot⟩ := hi.slot i _ ht
      cases hslot
  | @collect text' texts' i rest hs' hf =>
      obtain ⟨rfl, rfl⟩ : first.text = text' ∧ texts = texts' := by simpa [hs] using hs'
      cases ht : v.run.tasks[i]? with
      | none =>
          -- a position without a task fills no slot
          have hsame : v.run.collect i first.text texts = v.run := by simp [Run.collect, ht]
          rw [hsame]
          exact ⟨texts, hi, .inl hs⟩
      | some t =>
          obtain ⟨url, rfl⟩ : ∃ url, t = ⟨url, .ended (.ok (text i))⟩ := by
            obtain ⟨found, -, hslot⟩ := hi.slot i t ht
            obtain ⟨url, state⟩ := t
            cases hslot with
            | waiting | filled => exact ⟨url, rfl⟩
            | spawned _ hw | queued _ hw | fetching _ hw => exact absurd (by simp [hf]) hw
          have hcollect : Slots v.run.job first.next text
              { v with run := v.run.collect i first.text texts } (texts.set i (some (text i))) :=
            hi.collect hf (by simp [Run.collect, ht]) (by simp [Run.collect, ht, hf]) rfl
          refine ⟨_, hcollect, ?_⟩
          cases hall : (texts.set i (some (text i))).all Option.isSome with
          | true =>
              refine .inr ⟨rfl, ?_⟩
              have htexts := hcollect.texts_eq hall
              simp [Run.collect, ht, htexts, pagesOf, List.filterMap_map, Function.comp_def]
          | false => exact .inl (by simp [Run.collect, ht, hall])
  | notice hs' hc' => simp [hc'] at hactive
  | abandon hs' => simp [hs] at hs'
  | refuse hs' => simp [hs, Stage.stores] at hs'
  | finish hs' => simp [hs] at hs'
  | begin hs' | request hs' | exchange hs' | reply hs' | gather hs' | deliver hs' | update hs' =>
      simp [hs] at hs'

/-! ### Runs whose pages are fetched side by side -/

/-- The stages of a run that has all its pages. -/
inductive Fan.Past (job : Job) (pages : Pages) : Stage → Prop
  | gathered : Past job pages (.gathered pages)
  | assembled : Past job pages (.assembled pages)
  | delivered {stage : Stage} (hs : stage.stores = true ∨ ∃ outcome, stage = .ended outcome)
      (hd : job.delivery?.isSome = true) : Past job pages stage

/-- **How far a run has come whose pages are fetched side by side.** -/
inductive Fan (job : Job) (first : Extracted) (text : Nat → Text) (v : View) : Prop
  | fresh (hs : v.run.stage = .fresh) (ht : v.run.tasks = []) (hf : v.run.finished = [])
      (hq : v.requests = [])
  | spreading {texts : List (Option Text)} (hs : v.run.stage = .spreading first.text texts)
      (hi : Slots job first.next text v texts)
  | complete (hs : Fan.Past job (pagesOf first text) v.run.stage)
      (ht : ∀ t ∈ v.run.tasks, ∃ outcome, t.state = .ended outcome)
      (hq : v.requests.Perm (job.requestsFor first.next))

theorem Fan.Past.of_stores {pages : Pages} {stage : Stage} (h : Past job pages stage)
    (hs : stage.stores = true) : job.delivery?.isSome = true := by
  cases h with
  | delivered _ hd => exact hd
  | _ => cases hs

theorem Fan.Past.not_fresh {pages : Pages} : ¬ Past job pages .fresh := by
  rintro (_ | _ | ⟨hs | ⟨_, hs⟩, -⟩) <;> cases hs

/-- Tasks that have all ended stay so. -/
theorem Move.tasks_ended (h : Move r v a v') (hf : v.run.stage ≠ .fresh)
    (ht : ∀ t ∈ v.run.tasks, ∃ outcome, t.state = .ended outcome) :
    ∀ t ∈ v'.run.tasks, ∃ outcome, t.state = .ended outcome := by
  intro t hmem
  rcases h.tasks with hs | hs | ⟨-, hs, -⟩ | ⟨i, url, s, s', hi, hm, -, -⟩
  · exact ht t (hs ▸ hmem)
  · obtain ⟨u, hu, rfl⟩ := List.mem_map.1 (hs ▸ hmem)
    obtain ⟨outcome, ho⟩ := ht u hu
    exact ⟨outcome, TaskState.stop_eq_ended_iff.2 ho⟩
  · exact absurd hs hf
  · obtain ⟨outcome, ho⟩ := ht _ (List.mem_of_getElem? hi)
    cases hm <;> cases ho

/-- A run spread out over several pages has a slot for each of them, all empty. -/
theorem Run.spread_slots (run : Run) (text : Nat → Text) (htwo : 2 ≤ first.next.length)
    (hf : run.finished = []) (cancelled : Bool) (calls : List Call) :
    (run.spread first.text first.next).stage =
        .spreading first.text (first.next.map fun _ => none) ∧
      Slots run.job first.next text ⟨run.spread first.text first.next, cancelled, [], calls⟩
        (first.next.map fun _ => none) := by
  obtain ⟨c, c', rest, hnext⟩ : ∃ c c' rest, first.next = c :: c' :: rest := by
    match h : first.next with
    | [] | [_] => simp [h] at htwo
    | c :: c' :: rest => exact ⟨c, c', rest, rfl⟩
  have hspread : run.spread first.text first.next =
      { run with
        stage := .spreading first.text (first.next.map fun _ => none)
        tasks := first.next.map fun url => { url } } := by
    rw [hnext]
    rfl
  rw [hspread]
  refine ⟨rfl, ⟨by simp [Function.comp_def], by simp, by simp [hf], by simp, by simp, ?_⟩⟩
  intro i t ht
  simp only [List.getElem?_map, Option.map_eq_some_iff] at ht
  obtain ⟨url, hurl, rfl⟩ := ht
  exact ⟨none, by rw [List.getElem?_map, hurl]; rfl, .spawned (by simp) (by simp [hf])⟩

/-- **Every move keeps a run on its way whose pages are fetched side by side.** -/
theorem Move.fan (h : Move r v a v') (hi : Fan v.run.job first text v)
    (hfirst : v.run.job.firstPage = .ok first) (htwo : 2 ≤ first.next.length)
    (hc : v'.cancelled = false)
    (hanswer : ∀ i url reply fires, a = .answer r i reply fires →
      v.run.tasks[i]? = some ⟨url, .fetching⟩ →
      (readReply v.run.job.source.rules false url reply).map (·.text) = .ok (text i))
    (hdie : ∀ i message, a ≠ .die r i message) : Fan v.run.job first text v' := by
  have hactive := h.active_of_active hc
  cases hi with
  | fresh hs ht hf hq =>
      cases h with
      | other => exact .fresh hs ht hf hq
      | begin =>
          obtain ⟨body, hb⟩ := Job.exists_body_of_firstPage hfirst
          obtain ⟨hstage, hslots⟩ := Run.spread_slots
            { v.run with title := v.run.job.titleOn body } text htwo hf v.cancelled v.calls
          rw [hactive, hq, Run.begun_of_firstPage hb hfirst, ← hactive]
          exact .spreading hstage hslots
      | notice hs' => simp [hs, Stage.waits] at hs'
      | refuse hs' => simp [hs, Stage.stores] at hs'
      | queue ht' | launch ht' | answer ht' | die ht' | drop ht' => simp [ht] at ht'
      | finish hs' => simp [hs] at hs'
      | request hs' | exchange hs' | reply hs' | collect hs' => simp [hs] at hs'
      | gather hs' | abandon hs' | deliver hs' | update hs' => simp [hs] at hs'
  | spreading hs hslots =>
      obtain ⟨texts', hslots', hs' | ⟨hall, hs'⟩⟩ := h.slots hs hslots hc hanswer hdie
      · exact .spreading hs' hslots'
      · refine .complete (hs' ▸ .gathered) (fun t ht => ?_) (hslots'.perm hall)
        obtain ⟨i, hi⟩ := List.mem_iff_getElem?.1 ht
        exact ⟨_, (hslots'.filled hall hi).2.1⟩
  | complete hs ht hq =>
      have ht' := h.tasks_ended (fun hf => Fan.Past.not_fresh (hf ▸ hs)) ht
      cases h with
      | other => exact .complete hs ht hq
      | gather hs' =>
          rw [hs'] at hs
          cases hs with
          | gathered => exact .complete .assembled ht' hq
          | delivered hs => simp [Stage.stores] at hs
      | deliver hs' hd =>
          exact .complete (.delivered (Run.delivered_ends ..) (by simp [hd])) ht' hq
      | refuse hs' => exact .complete (.delivered (.inr ⟨_, rfl⟩) (hs.of_stores hs')) ht' hq
      | update hs' =>
          exact .complete (.delivered (.inl rfl) (hs.of_stores (by rw [hs']; rfl))) ht' hq
      | finish hs' =>
          refine .complete (.delivered (.inr ⟨_, rfl⟩) (hs.of_stores ?_)) ht' hq
          rcases hs' with ⟨hs', -⟩ | hs' <;> rw [hs'] <;> rfl
      | notice hs' hc' => simp [hc'] at hactive
      | abandon hs' hc' => simp [hc'] at hactive
      | queue hi | launch hi | answer hi | die hi | drop hi =>
          obtain ⟨outcome, ho⟩ := ht _ (List.mem_of_getElem? hi)
          cases ho
      | begin hs' | request hs' | exchange hs' | reply hs' | collect hs' =>
          rw [hs'] at hs
          cases hs with
          | delivered hs => simp [Stage.stores] at hs

/-- A task that fetches stands at the position of a page that is named. -/
theorem Fan.lt_of_fetching {i : Nat} {url : Text} (h : Fan job first text v)
    (ht : v.run.tasks[i]? = some ⟨url, .fetching⟩) : i < first.next.length := by
  cases h with
  | fresh _ hnone => simp [hnone] at ht
  | spreading _ hi =>
      rw [← hi.length_tasks]
      exact (List.getElem?_eq_some_iff.1 ht).1
  | complete _ hall =>
      obtain ⟨outcome, ho⟩ := hall _ (List.mem_of_getElem? ht)
      cases ho

/-! ### Every run -/

/-- The rules of the job's source find a text on a page. -/
def Job.Reads (job : Job) (page : FetchedPage) (text : Text) : Prop :=
  ∃ body, page.body = some body ∧
    extractText job.source.rules ⟨body, Url.pageBase page.finalUrl⟩ = .ok text

theorem Job.Reads.readReply {page : FetchedPage} {found : Text} (h : job.Reads page found)
    (url : Text) :
    (readReply job.source.rules false url (.ok page)).map (·.text) = .ok found := by
  obtain ⟨body, hb, ht⟩ := h
  simp [Content.readReply, hb, extracted, ht, Except.map]

/-- **What is promised of pages that are fetched side by side**, at every moment of their run. -/
structure FansOut (job : Job) (first : Extracted) (text : Nat → Text) (run : Run)
    (requests : List (Option Nat × FetchTarget)) : Prop where
  /-- No page is requested twice, -/
  once : requests.Nodup
  /-- and none but those that the first page names, each at its position. -/
  known : ∀ q ∈ requests, q ∈ job.requestsFor first.next
  /-- A run that has its pages has their texts in reading order, and has requested each once. -/
  assembled : ∀ p, run.stage = .assembled p →
    p.texts = first.text :: (List.range first.next.length).map text ∧
      requests.Perm (job.requestsFor first.next)
  /-- A run that is asked for no more than the pages comes to no other end. -/
  only_end : job.delivery? = none → run.isOver = true → ∃ p, run.stage = .assembled p

theorem Fan.promised (h : Fan job first text v) : FansOut job first text v.run v.requests := by
  cases h with
  | fresh hs _ _ hq => constructor <;> simp [hq, hs, Run.isOver]
  | spreading hs hi =>
      constructor
      case once => exact hi.nodup
      case known => exact hi.known
      all_goals simp [hs, Run.isOver]
  | complete hs _ hq =>
      constructor
      case once => exact hq.nodup_iff.2 (job.requestsFor_nodup _)
      case known => exact fun q => hq.mem_iff.1
      case assembled =>
        intro p hp
        rw [hp] at hs
        cases hs with
        | assembled => exact ⟨rfl, hq⟩
        | delivered hs => simp [Stage.stores] at hs
      case only_end =>
        intro hd hover
        generalize hstage : v.run.stage = stage at hs
        cases hs with
        | gathered => simp [Run.isOver, hstage] at hover
        | assembled => exact ⟨_, rfl⟩
        | delivered _ hd' => simp [hd] at hd'

/-- **Pages fetched side by side stand in reading order**, whatever the other runs do, however few
slots there are, and in whatever order the tasks go on. -/
theorem Machine.Path.fansOut {m n : Machine} {acts : List Action} {page : Nat → FetchedPage}
    (hm : m.Fresh r job) (hfirst : job.firstPage = .ok first) (htwo : 2 ≤ first.next.length)
    (hread : ∀ i < first.next.length, job.Reads (page i) (text i))
    (hfetch : ∀ i reply fires, .answer r i reply fires ∈ acts → reply = .ok (page i))
    (hdie : ∀ i message, .die r i message ∉ acts) (hp : m.Path acts n)
    (htoken : job.token ∉ n.fired) :
    ∃ run, n.runs[r]? = some run ∧ FansOut job first text run (n.requestsOf r) := by
  let I : List Action → View → Prop := fun _ v =>
    v.run.job = job ∧ (v.cancelled = false → Fan job first text v)
  obtain ⟨v, hv, hjob, hi⟩ := hp.view_induction (I := I) hm.view
    ⟨rfl, fun _ => .fresh rfl rfl rfl rfl⟩ (by
      rintro before k a v v' ⟨before', after, rfl, -⟩ - ⟨rfl, hi⟩ hmove
      refine ⟨hmove.job, fun hc => ?_⟩
      have hfan := hi (hmove.active_of_active hc)
      refine hmove.fan hfan hfirst htwo hc ?_ ?_
      · rintro i url reply fires rfl ht
        rw [hfetch i reply fires (by simp)]
        exact (hread i (hfan.lt_of_fetching ht)).readReply url
      · rintro i message rfl
        exact hdie i message (by simp))
  obtain ⟨hr, hc, hq, -⟩ := view?_eq_some_iff.1 hv
  have hfan := hi (by
    rw [← hc, isCancelled, hjob]
    simpa using htoken)
  exact ⟨v.run, hr, hq ▸ hfan.promised⟩

/-! ### A page that names two others -/

/-- A job to read a page that names two others. -/
def Job.twofold : Job where
  source := { rules := { content := "##y", nextPages := some "p" } }
  first := { requestedUrl := [], finalUrl := [], body := some "<p>v<p>w" }

/-- What is found on the first page. -/
def Job.twofoldFirst : Extracted where
  text := "\u3000\u3000v\n\u3000\u3000w"
  next := [['v'], ['w']]

/-- The pages that it names, each with one letter. -/
def twofoldPage (i : Nat) : FetchedPage :=
  { requestedUrl := [], finalUrl := [], body := some (if i = 0 then ['a'] else ['b']) }

/-- Their texts. -/
def twofoldText (i : Nat) : Text := if i = 0 then "\u3000\u3000a" else "\u3000\u3000b"

set_option maxRecDepth 20000 in
theorem Job.firstPage_twofold : Job.twofold.firstPage = .ok Job.twofoldFirst := by cbv

theorem Job.reads_twofold (i : Nat) : Job.twofold.Reads (twofoldPage i) (twofoldText i) := by
  have ha : extractText Job.twofold.source.rules ⟨['a'], Url.pageBase []⟩ =
      .ok "\u3000\u3000a" := by decide +kernel
  have hb : extractText Job.twofold.source.rules ⟨['b'], Url.pageBase []⟩ =
      .ok "\u3000\u3000b" := by decide +kernel
  unfold twofoldPage twofoldText
  split
  · exact ⟨_, rfl, ha⟩
  · exact ⟨_, rfl, hb⟩

/-- A task ends with what its page reads as. -/
theorem Move.answer_of_reads {i : Nat} {url found : Text} {page : FetchedPage}
    (ht : v.run.tasks[i]? = some ⟨url, .fetching⟩) (hread : v.run.job.Reads page found) :
    Move r v (.answer r i (.ok page) false) { v with run := v.run.endTask i (.ok found) } := by
  have h := @Move.answer r v i url (.ok page) false ht
  rwa [hread.readReply, Bool.or_false] at h

/-- Two tasks share one slot: the first one fetches, and the other one waits. -/
theorem Machine.exists_launched (hfirst : job.firstPage = .ok Job.twofoldFirst) (fires : Bool) :
    ∃ n title, (Machine.ofJobs (.ofSize 1) [job]).Path
        [.begin 0, .queue 0 0, .queue 0 1, .launch 0 0 fires] n ∧
      n.view? 0 = some ⟨{ job, title
                          stage := .spreading Job.twofoldFirst.text [none, none]
                          tasks := [⟨['v'], .fetching⟩, ⟨['w'], .queued⟩] },
        fires, [job.requestFor 0 ['v']], []⟩ := by
  obtain ⟨body, hb⟩ := Job.exists_body_of_firstPage hfirst
  have hm : (Machine.ofJobs (.ofSize 1) [job]).Fresh 0 job := Machine.fresh_ofJobs rfl _
  have hbegin : Move 0 ⟨{ job }, false, [], []⟩ (.begin 0) ⟨_, false, [], []⟩ := .begin rfl
  rw [Run.begun_of_firstPage hb hfirst] at hbegin
  obtain ⟨_, p1, v1⟩ := Machine.Path.nil.move hm.view hbegin rfl (by simp)
  obtain ⟨_, p2, v2⟩ := p1.move (a := .queue 0 0) v1 (.queue rfl) rfl (by simp)
  obtain ⟨_, p3, v3⟩ := p2.move (a := .queue 0 1) v2 (.queue rfl) rfl (by simp)
  obtain ⟨n, p4, v4⟩ := p3.move (a := .launch 0 0 fires) v3 (.launch rfl) rfl (by
    rintro i fires ⟨⟩
    rw [p3.pool]
    rfl)
  exact ⟨n, _, p4, v4⟩

/-- One slot for two pages, of which the second is fetched first. -/
theorem Machine.fansOut_twofold : ∃ acts n run,
    (Machine.ofJobs (.ofSize 1) [Job.twofold]).Path acts n ∧ n.runs[0]? = some run ∧
      run.stage = .assembled ⟨[Job.twofoldFirst.text, twofoldText 0, twofoldText 1]⟩ ∧
      FansOut Job.twofold Job.twofoldFirst twofoldText run (n.requestsOf 0) := by
  have hm : (Machine.ofJobs (.ofSize 1) [Job.twofold]).Fresh 0 Job.twofold :=
    Machine.fresh_ofJobs rfl _
  have hbegin : Move 0 ⟨{ job := Job.twofold }, false, [], []⟩ (.begin 0) ⟨_, false, [], []⟩ :=
    .begin rfl
  rw [Run.begun_of_firstPage rfl Job.firstPage_twofold] at hbegin
  obtain ⟨_, p1, v1⟩ := Machine.Path.nil.move hm.view hbegin rfl (by simp)
  obtain ⟨_, p2, v2⟩ := p1.move (a := .queue 0 1) v1 (.queue rfl) rfl (by simp)
  obtain ⟨_, p3, v3⟩ := p2.move (a := .queue 0 0) v2 (.queue rfl) rfl (by simp)
  obtain ⟨_, p4, v4⟩ := p3.move (a := .launch 0 1 false) v3 (.launch rfl) rfl (by
    rintro i fires ⟨⟩
    rw [p3.pool]
    rfl)
  obtain ⟨_, p5, v5⟩ := p4.move (a := .answer 0 1 (.ok (twofoldPage 1)) false) v4
    (.answer_of_reads rfl (Job.reads_twofold 1)) rfl (by simp)
  obtain ⟨_, p6, v6⟩ := p5.move (a := .launch 0 0 false) v5 (.launch rfl) rfl (by
    rintro i fires ⟨⟩
    rw [p5.pool]
    rfl)
  obtain ⟨_, p7, v7⟩ := p6.move (a := .answer 0 0 (.ok (twofoldPage 0)) false) v6
    (.answer_of_reads rfl (Job.reads_twofold 0)) rfl (by simp)
  obtain ⟨_, p8, v8⟩ := p7.move v7 (.collect rfl rfl rfl) rfl (by simp)
  obtain ⟨_, p9, v9⟩ := p8.move v8 (.collect rfl rfl rfl) rfl (by simp)
  obtain ⟨n, p10, v10⟩ := p9.move v9 (.gather rfl rfl) rfl (by simp)
  obtain ⟨hr', hc, -⟩ := Machine.view?_eq_some_iff.1 v10
  obtain ⟨run, hr, h⟩ := Machine.Path.fansOut hm Job.firstPage_twofold (by decide)
    (fun i _ => Job.reads_twofold i) (fun i reply fires hmem => by
      obtain ⟨rfl, rfl, -⟩ | ⟨rfl, rfl, -⟩ :
          (i = 1 ∧ reply = .ok (twofoldPage 1) ∧ fires = false) ∨
            (i = 0 ∧ reply = .ok (twofoldPage 0) ∧ fires = false) := by simpa using hmem
      all_goals rfl) (by simp) p10 (by simpa [Machine.isCancelled] using hc)
  obtain rfl := Option.some.inj (hr.symm.trans hr')
  exact ⟨_, n, _, p10, hr, rfl, h⟩

end Content

end ChapterAssembly
