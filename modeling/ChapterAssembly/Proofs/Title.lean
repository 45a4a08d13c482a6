/-
**The rule for the title.**

A rule for the title, whatever it finds, decides on the chapter that is handed to the storage and on
whether the table of contents is brought up to date; the requests of a run and its text are what
they are without it.  Only the storage can make a difference between two runs with different rules
for the title: it may refuse one of them what it grants the other one.

Main definitions:

* `View.Tended` — how far the tasks of a run are;
* `Stage.Holds` — a run has its final text, and the storage is being asked or has answered;
* `Alike` — two runs that differ in their titles;
* `Job.withTitle` — a job with another rule for the title;
* `SameText` — what is promised of two runs that differ in it.

Main results:

* `Alike.paired`, `Alike.stored_left`, `Alike.stored_right` — every move keeps two runs alike;
* `Course.Alike.next` — and so does every point of their courses;
* `Machine.Path.sameText` — **a rule for the title makes no difference** to a run on the same
  schedule, but for what the storage answers;
* `Machine.ComesTo.sameText` — nor to one on another schedule, if the pages come the same.
-/

import ChapterAssembly.Proofs.Failure
import ChapterAssembly.Proofs.Isolation
import ChapterAssembly.Proofs.Run.Beside
import ChapterAssembly.Proofs.Run.Twin

set_option relaxedAutoImplicit false
set_option autoImplicit false

namespace ChapterAssembly

namespace Content

variable {job : Job} {rules : RuleSet} {r : Nat} {v v' w : View} {a : Action} {content : Text}
  {m m' n n' : Machine} {acts acts' : List Action} {result : Except StorageError Unit}

/-! ### Tasks of a run -/

/-- A run has no task if its first page names at most one other; else it waits for its tasks, or has
done with them. -/
def View.Tended (v : View) : Prop :=
  ((∀ first, v.run.job.firstPage = .ok first → first.next.length ≤ 1) ∧ v.run.tasks = []) ∨
    ∃ first, v.run.job.firstPage = .ok first ∧ 2 ≤ first.next.length ∧ v.Unhurt first

theorem View.tended_fresh (job : Job) (cancelled : Bool) :
    View.Tended ⟨{ job }, cancelled, [], []⟩ := by
  by_cases hmany : ∃ first, job.firstPage = .ok first ∧ 2 ≤ first.next.length
  · obtain ⟨first, hfirst, htwo⟩ := hmany
    exact .inr ⟨first, hfirst, htwo, .fresh rfl rfl rfl rfl⟩
  · refine .inl ⟨fun first hfirst => ?_, rfl⟩
    by_contra hlong
    exact hmany ⟨first, hfirst, by omega⟩

theorem Move.tended (h : Move r v a v') (hi : v.Tended) : v'.Tended := by
  rcases hi with ⟨hfew, hnil⟩ | ⟨first, hfirst, htwo, hi⟩
  · refine .inl ⟨h.job ▸ hfew, ?_⟩
    rcases h.tasks with ht | ht | ⟨rfl, -⟩ | ⟨i, url, s, s', ht, -⟩
    · rw [ht, hnil]
    · rw [ht, hnil]
      rfl
    · cases h with
      | other ha => exact absurd rfl ha
      | begin => exact (v.run.begun_of_few hnil v.cancelled hfew).1
    · simp [hnil] at ht
  · exact .inr ⟨first, h.job ▸ hfirst, htwo, h.unhurt hi hfirst htwo⟩

/-- A run that has its pages has done with its tasks. -/
theorem View.Tended.not_isLive (hi : v.Tended) (hfresh : v.run.stage ≠ .fresh)
    (hs : ∀ text texts, v.run.stage ≠ .spreading text texts) :
    ∀ t ∈ v.run.tasks, t.state.isLive = false := by
  rcases hi with ⟨-, hnil⟩ | ⟨first, -, -, hs' | hg | hi⟩
  · simp [hnil]
  · exact absurd hs' hfresh
  · exact absurd hg.stage (hs _ _)
  · exact hi.tasks

/-- A task that has come to an end, or was told to stop, does not notice that it is told so. -/
theorem Task.map_stop_of_not_isLive {tasks : List Task}
    (h : ∀ t ∈ tasks, t.state.isLive = false) : tasks.map Task.stop = tasks := by
  refine (List.map_congr_left fun t ht => ?_).trans (List.map_id _)
  simp [Task.stop, TaskState.stop, h t ht]

/-! ### Runs that have their final text -/

/-- A run in this stage has its final text: the storage is being asked, or has answered. -/
inductive Stage.Holds (content : Text) : Stage → Prop
  | saving {s : Saving} (h : s.content = content) : Holds content (.saving s)
  | updating {s : Saving} (h : s.content = content) : Holds content (.updating s)
  | ended : Holds content (.ended (.ok content))
  | refused (e : StorageError) : Holds content (.ended (.error (.storage e)))

theorem Stage.Holds.exists_ended {stage : Stage} (h : stage.Holds content)
    (hs : stage.stores = false) : ∃ outcome, stage = .ended outcome := by
  cases h with
  | saving | updating => cases hs
  | ended => exact ⟨_, rfl⟩
  | refused e => exact ⟨_, rfl⟩

/-- **A run that has its final text**, and has done with its tasks. -/
structure View.Holds (content : Text) (v : View) : Prop where
  stage : v.run.stage.Holds content
  tasks : ∀ t ∈ v.run.tasks, t.state.isLive = false

/-- It keeps its text when one of its tasks is let go. -/
theorem View.Holds.stopped (hi : v.Holds content) (i : Nat) :
    View.Holds content { v with run := v.run.setTask i .stopped } where
  stage := hi.stage
  tasks t ht := by
    rcases Run.mem_setTask ht with ht | hs
    · exact hi.tasks t ht
    · rw [hs]
      rfl

/-- What a call gives the storage to keep, and for which book. -/
def Call.kept? : Call → Option (Book × Text)
  | .save _ book _ content => some (book, content)
  | .update _ => none

/-- An answer of the storage leaves a run its text, and changes nothing else that is seen of it. -/
theorem Move.holds_of_stored (h : Move r v (.stored r result) v') (hi : v.Holds content) :
    v'.Holds content ∧ v'.run.tasks = v.run.tasks ∧ v'.cancelled = v.cancelled ∧
      v'.requests = v.requests ∧ v'.calls.filterMap Call.kept? = v.calls.filterMap Call.kept? := by
  obtain ⟨hstage, htasks⟩ := hi
  cases h with
  | other ha => exact absurd rfl ha
  | @refuse e hs =>
      have hstop : (v.run.fail (.storage e)).tasks = v.run.tasks :=
        Task.map_stop_of_not_isLive htasks
      exact ⟨⟨.refused e, v.run.not_isLive_fail⟩, hstop, rfl, rfl, rfl⟩
  | update hs =>
      rw [hs] at hstage
      cases hstage with
      | saving hc => exact ⟨⟨.updating hc, htasks⟩, rfl, rfl, rfl, by simp [Call.kept?]⟩
  | @finish s hs =>
      have hc : s.content = content := by
        rcases hs with ⟨hs, -⟩ | hs
        · rw [hs] at hstage
          cases hstage with
          | saving hc => exact hc
        · rw [hs] at hstage
          cases hstage with
          | updating hc => exact hc
      exact ⟨⟨hc ▸ .ended, htasks⟩, rfl, rfl, rfl, rfl⟩

/-- All that a run does by itself once it has its text is to have its tasks let go. -/
theorem Move.drop_of_holds (h : Move r v a v') (hi : v.Holds content) (ha : a.run? = some r)
    (hn : a.answer? r = none) : ∃ i url, a = .drop r i ∧
      v.run.tasks[i]? = some ⟨url, .stopping⟩ ∧
      v' = { v with run := v.run.setTask i .stopped } := by
  obtain ⟨hstage, htasks⟩ := hi
  have hlive : ∀ {i : Nat} {url : Text} {s : TaskState}, v.run.tasks[i]? = some ⟨url, s⟩ →
      s.isLive = false := fun ht => htasks _ (List.mem_of_getElem? ht)
  cases h with
  | other ha' => exact absurd ha ha'
  | drop ht => exact ⟨_, _, rfl, ht, rfl⟩
  | queue ht | launch ht | answer ht | die ht => cases hlive ht
  | refuse | update | finish => simp [Action.answer?] at hn
  | notice hs =>
      generalize v.run.stage = stage at hs hstage
      cases hstage <;> cases hs
  | begin hs | request hs | exchange hs | reply hs | collect hs | gather hs | abandon hs
  | deliver hs => rw [hs] at hstage; cases hstage

/-! ### Titles -/

/-- **Two runs that differ in their titles**: one is the twin of the other one, or both have the same
final text. -/
structure Alike (rules : RuleSet) (v v' : View) : Prop where
  reads : rules.ReadsAs v.run.job.source.rules
  tended : v.Tended
  job : v'.run.job = v.run.job.withRules rules
  cancelled : v'.cancelled = v.cancelled
  requests : v'.requests = v.requests
  kept : v'.calls.filterMap Call.kept? = v.calls.filterMap Call.kept?
  text : (∃ title, v'.run = v.run.twin rules title) ∨
    ∃ content, v.Holds content ∧ v'.Holds content ∧ v'.run.tasks = v.run.tasks

/-- A run that is to be stored has its final text once it has passed its last check. -/
theorem Run.holds_passed {run : Run} {d : Delivery} (hp : d.persist = true) (content : Text)
    (n : Nat) : (run.passed d content n).stage.Holds content := by
  rw [passed, if_pos hp]
  exact .saving rfl

/-- What a run makes of its pages, its twin makes of them, but for the chapter that is stored. -/
theorem Alike.deliver {d : Delivery} {pages : Pages} {title : Resolution} (h : Alike rules v v')
    (hrun : v'.run = v.run.twin rules title) (hs : v.run.stage = .assembled pages)
    (hd : v.run.job.delivery? = some d) :
    Alike rules
      { v with
        run := v.run.delivered v.cancelled d pages
        calls := v.calls ++ (Machine.callOf (v.run.delivered v.cancelled d pages)).toList }
      { v' with
        run := v'.run.delivered v'.cancelled d pages
        calls := v'.calls ++ (Machine.callOf (v'.run.delivered v'.cancelled d pages)).toList } := by
  have htended := (Move.deliver (r := 0) hs hd).tended h.tended
  have hlive := h.tended.not_isLive (by simp [hs]) (by simp [hs])
  have hd' : v'.run.job.delivery? = some d := by rw [h.job]; exact hd
  have hverdict : v'.run.job.verdict v'.cancelled d pages =
      v.run.job.verdict v.cancelled d pages := by
    rw [h.job, h.cancelled]
    exact Job.verdict_withRules h.reads _ _ _
  refine ⟨by simpa using h.reads, htended, by simp [h.job], h.cancelled, h.requests, ?_, ?_⟩
  · simp only [List.filterMap_append, h.kept]
    cases hv : v.run.job.verdict v.cancelled d pages with
    | error e =>
        rw [Run.delivered_of_error hv, Run.delivered_of_error (hverdict.trans hv)]
        rfl
    | ok content =>
        rw [Run.delivered_of_ok hv, Run.delivered_of_ok (hverdict.trans hv),
          Run.callOf_passed hd, Run.callOf_passed hd']
        cases d.persist <;> rfl
  · cases hv : v.run.job.verdict v.cancelled d pages with
    | error e =>
        refine .inl ⟨title, ?_⟩
        rw [Run.delivered_of_error hv, Run.delivered_of_error (hverdict.trans hv), hrun]
        rfl
    | ok content =>
        rw [Run.delivered_of_ok hv, Run.delivered_of_ok (hverdict.trans hv)]
        cases hp : d.persist with
        | true =>
            have htasks : v'.run.tasks = v.run.tasks := by rw [hrun, Run.twin_tasks]
            refine .inr ⟨content, ⟨Run.holds_passed hp _ _, ?_⟩, ⟨Run.holds_passed hp _ _, ?_⟩, ?_⟩
            · simpa using hlive
            · simpa [htasks] using hlive
            · simpa using htasks
        | false => exact .inl ⟨title, by rw [hrun, Run.twin_passed _ hp]⟩

/-- **Runs that differ in their titles go on alike**, as long as the storage does not answer. -/
theorem Alike.paired (rules : RuleSet) (r : Nat) :
    Paired r (fun a => a.answer? r = none) (Alike rules) where
  token h := by rw [h.job]; rfl
  other {v v' cancelled} h hc := by
    have htended := (Move.other (r := r) (a := .fire 0) (by simp [Action.run?]) hc).tended h.tended
    refine ⟨h.reads, htended, h.job, rfl, h.requests, h.kept, ?_⟩
    rcases h.text with htwin | ⟨content, hl, hr, ht⟩
    · exact .inl htwin
    · exact .inr ⟨content, ⟨hl.stage, hl.tasks⟩, ⟨hr.stage, hr.tasks⟩, ht⟩
  own {v v' a w} h hmove ha hn := by
    rcases h.text with ⟨title, hrun⟩ | ⟨content, hl, hr, ht⟩
    · by_cases hdeliver : a = .deliver r
      · subst hdeliver
        cases hmove with
        | other ha' => exact absurd ha ha'
        | deliver hs hd =>
            refine ⟨_, .deliver ?_ ?_, h.deliver hrun hs hd⟩
            · rw [hrun, Run.twin_stage, hs]
            · rw [h.job]
              exact hd
      · obtain ⟨hcalls, title', hmove', -⟩ :=
          hmove.twin h.reads hdeliver hn title v'.calls
        have hv' : v.twin rules title v'.calls = v' := by
          rw [View.twin, ← hrun, ← h.cancelled, ← h.requests]
        refine ⟨_, hv' ▸ hmove', ?_⟩
        exact ⟨hmove.job ▸ h.reads, hmove.tended h.tended, rfl, rfl, rfl, hcalls ▸ h.kept,
          .inl ⟨title', rfl⟩⟩
    · obtain ⟨i, url, rfl, htask, rfl⟩ := hmove.drop_of_holds hl ha hn
      refine ⟨_, .drop (ht ▸ htask), ?_⟩
      exact ⟨h.reads, hmove.tended h.tended, h.job, h.cancelled, h.requests, h.kept,
        .inr ⟨content, hl.stopped i, hr.stopped i, by simp [Run.setTask, ht]⟩⟩

/-- When the storage is asked by one of the runs, both have the same final text. -/
theorem Alike.exists_holds (h : Alike rules v v')
    (hs : v.run.stage.stores = true ∨ v'.run.stage.stores = true) :
    ∃ content, v.Holds content ∧ v'.Holds content ∧ v'.run.tasks = v.run.tasks := by
  rcases h.text with ⟨title, hrun⟩ | hholds
  · have hstage : v'.run.stage = v.run.stage := by rw [hrun, Run.twin_stage]
    have htasks : v'.run.tasks = v.run.tasks := by rw [hrun, Run.twin_tasks]
    have hstores : v.run.stage.stores = true := by simpa [hstage] using hs
    obtain ⟨content, hholds⟩ : ∃ content, v.run.stage.Holds content := by
      cases hstage : v.run.stage with
      | saving s => exact ⟨s.content, .saving rfl⟩
      | updating s => exact ⟨s.content, .updating rfl⟩
      | _ => simp [hstage, Stage.stores] at hstores
    have hlive : ∀ t ∈ v.run.tasks, t.state.isLive = false := by
      refine h.tended.not_isLive ?_ ?_
      · intro hfresh
        simp [hfresh, Stage.stores] at hstores
      · intro text texts hspreading
        simp [hspreading, Stage.stores] at hstores
    exact ⟨content, ⟨hholds, hlive⟩, ⟨hstage ▸ hholds, htasks ▸ hlive⟩, htasks⟩
  · exact hholds

/-- The storage answers only when it was asked. -/
theorem Move.stores_of_stored (h : Move r v (.stored r result) v') : v.run.stage.stores = true := by
  by_contra hs
  have hnone := h.answer?_eq_none (by simpa using hs)
  simp [Action.answer?] at hnone

/-- The storage may answer either run, without the other one. -/
theorem Alike.stored_left (h : Alike rules v v') (hmove : Move r v (.stored r result) w) :
    Alike rules w v' := by
  obtain ⟨content, hl, hr, ht⟩ := h.exists_holds (.inl hmove.stores_of_stored)
  obtain ⟨hl', htasks, hc, hq, hk⟩ := hmove.holds_of_stored hl
  exact ⟨hmove.job ▸ h.reads, hmove.tended h.tended, hmove.job ▸ h.job, h.cancelled.trans hc.symm,
    h.requests.trans hq.symm, h.kept.trans hk.symm,
    .inr ⟨content, hl', hr, ht.trans htasks.symm⟩⟩

theorem Alike.stored_right (h : Alike rules v v') (hmove : Move r v' (.stored r result) w) :
    Alike rules v w := by
  obtain ⟨content, hl, hr, ht⟩ := h.exists_holds (.inr hmove.stores_of_stored)
  obtain ⟨hr', htasks, hc, hq, hk⟩ := hmove.holds_of_stored hr
  exact ⟨h.reads, h.tended, hmove.job.trans h.job, hc.trans h.cancelled, hq.trans h.requests,
    hk.trans h.kept, .inr ⟨content, hl, hr', htasks.trans ht⟩⟩

/-- The job with another rule for the title. -/
def Job.withTitle (job : Job) (title : Option Text) : Job :=
  job.withRules { job.source.rules with title }

/-- The storage has refused a run something, which has failed by that. -/
def RefusedBy (r : Nat) (acts : List Action) (outcome : Except ContentError Text) : Prop :=
  ∃ e, .error e ∈ answersTo r acts ∧ outcome = .error (.storage e)

/-- **What is promised of two runs of a job with different rules for the title**, after the same
actions but for the answers of the storage. -/
structure SameText (r : Nat) (acts acts' : List Action) (n n' : Machine) (run run' : Run) :
    Prop where
  /-- They have made the same requests, -/
  requests : n'.requestsOf r = n.requestsOf r
  /-- and given the storage the same text to keep. -/
  kept : (n'.callsOf r).filterMap Call.kept? = (n.callsOf r).filterMap Call.kept?
  /-- Neither ends before the other one, unless that one waits for the storage. -/
  ended : run.stage.stores = false → run'.stage.stores = false →
    ((∃ outcome, run.stage = .ended outcome) ↔ ∃ outcome, run'.stage = .ended outcome)
  /-- They end with the same text or the same error, unless the storage refuses one of them
  something. -/
  outcome : ∀ outcome outcome', run.stage = .ended outcome → run'.stage = .ended outcome' →
    outcome' = outcome ∨ RefusedBy r acts outcome ∨ RefusedBy r acts' outcome'
  /-- No other run sees a difference. -/
  others : ∀ i, i ≠ r → n'.view? i = n.view? i

namespace Machine

variable {d : Delivery}

theorem Fresh.alike_withTitle (hm : m.Fresh r job) (title : Option Text) :
    m.Beside r (Alike { job.source.rules with title }) (m.given r (job.withTitle title)) :=
  hm.beside rfl fun cancelled => ⟨RuleSet.readsAs_title _ _, View.tended_fresh job cancelled, rfl,
    rfl, rfl, rfl, .inl ⟨{ title := [] }, rfl⟩⟩

/-- A run that has its final text ends with it, unless the storage refuses it something. -/
theorem Path.outcome_of_holds (hp : m.Path acts n) (hm : m.Fresh r job)
    (hd : job.delivery? = some d) (hv : n.view? r = some v) (hi : v.run.stage.Holds content)
    {outcome : Except ContentError Text} (hs : v.run.stage = .ended outcome) :
    outcome = .ok content ∨ RefusedBy r acts outcome := by
  obtain ⟨run, hr, -, hl⟩ := hp.ledger hm hd
  obtain rfl := Option.some.inj (hr.symm.trans (view?_eq_some_iff.1 hv).1)
  rw [hs] at hi
  cases hi with
  | ended => exact .inl rfl
  | refused e => exact .inr ⟨e, (hl.discipline.refused_iff e).1 hs, rfl⟩

/-- Two runs with the same final text end with it, unless the storage refuses one of them
something. -/
theorem Path.outcome_of_both_hold {r' : Nat} {job' : Job} {d' : Delivery} (hp : m.Path acts n)
    (hp' : m'.Path acts' n') (hm : m.Fresh r job) (hm' : m'.Fresh r' job')
    (hd : job.delivery? = some d) (hd' : job'.delivery? = some d') (hv : n.view? r = some v)
    (hv' : n'.view? r' = some v') (hl : v.run.stage.Holds content)
    (hr : v'.run.stage.Holds content) {outcome outcome' : Except ContentError Text}
    (hs : v.run.stage = .ended outcome) (hs' : v'.run.stage = .ended outcome') :
    outcome' = outcome ∨ RefusedBy r acts outcome ∨ RefusedBy r' acts' outcome' := by
  rcases hp.outcome_of_holds hm hd hv hl hs with rfl | hrefused
  · rcases hp'.outcome_of_holds hm' hd' hv' hr hs' with rfl | hrefused
    · exact .inl rfl
    · exact .inr (.inr hrefused)
  · exact .inr (.inl hrefused)

/-- **A rule for the title makes no difference to a run** but for what the storage answers. -/
theorem Path.sameText (hp : m.Path acts n) (hm : m.Fresh r job) (hd : job.delivery? = some d)
    {title : Option Text} (hp' : (m.given r (job.withTitle title)).Path acts' n')
    (heq : unstored r acts' = unstored r acts) :
    ∃ run run', n.runs[r]? = some run ∧ n'.runs[r]? = some run' ∧
      SameText r acts acts' n n' run run' := by
  have hbeside := (hm.alike_withTitle title).paths (Alike.paired _ r)
    (fun _ _ _ _ => Alike.stored_left) (fun _ _ _ _ => Alike.stored_right) hp hp' heq
  obtain ⟨v, v', hv, hv', hi⟩ := hbeside.views
  obtain ⟨hr, -, hq, hc⟩ := view?_eq_some_iff.1 hv
  obtain ⟨hr', -, hq', hc'⟩ := view?_eq_some_iff.1 hv'
  refine ⟨v.run, v'.run, hr, hr', ?_, ?_, ?_, ?_, hbeside.others⟩
  · rw [hq, hq', hi.requests]
  · rw [hc, hc', hi.kept]
  · intro hs hs'
    rcases hi.text with ⟨title', hrun⟩ | ⟨content, hl, hr, -⟩
    · rw [hrun, Run.twin_stage]
    · exact iff_of_true (hl.stage.exists_ended hs) (hr.stage.exists_ended hs')
  · intro outcome outcome' hs hs'
    rcases hi.text with ⟨title', hrun⟩ | ⟨content, hl, hr, -⟩
    · rw [hrun, Run.twin_stage, hs] at hs'
      exact .inl (Stage.ended.inj hs').symm
    · exact hp.outcome_of_both_hold hp' hm (hm.given _) hd hd hv hv' hl.stage hr.stage hs hs'

end Machine

/-! ### On any schedule -/

section Courses

variable {o : Outside} {c c' : Course} {cancelled : Bool}

/-- The points that two runs come to that differ in their titles. -/
structure Course.Alike (c c' : Course) : Prop where
  requests : c'.requests = c.requests
  text : c'.stage = c.stage ∨ ∃ content, c.stage.Holds content ∧ c'.stage.Holds content

/-- A run that has its final text keeps it, and requests nothing more. -/
theorem Course.next_of_holds (h : c.stage.Holds content) (job : Job) (o : Outside) :
    (c.next job o).stage.Holds content ∧ (c.next job o).requests = c.requests := by
  generalize hs : c.stage = stage at h
  cases h with
  | saving hc =>
      simp only [next, hs]
      split
      · exact ⟨.refused _, rfl⟩
      · split
        · exact ⟨.updating hc, rfl⟩
        · exact ⟨hc ▸ .ended, rfl⟩
  | updating hc =>
      simp only [next, hs]
      split
      · exact ⟨.refused _, rfl⟩
      · exact ⟨hc ▸ .ended, rfl⟩
  | ended =>
      simp only [next, hs]
      exact ⟨.ended, trivial⟩
  | refused e =>
      simp only [next, hs]
      exact ⟨.refused e, trivial⟩

theorem Job.firstPage_withRules (hr : rules.ReadsAs job.source.rules) :
    (job.withRules rules).firstPage = job.firstPage := hr.readReply _ _ _

theorem Outside.textOf_withRules (hr : rules.ReadsAs job.source.rules) (first : Extracted) :
    o.textOf (job.withRules rules) first = o.textOf job first := by
  funext i
  simp only [textOf, Job.rules_withRules, hr.readReply]

theorem Outside.supplies_withRules (hr : rules.ReadsAs job.source.rules) :
    o.Supplies (job.withRules rules) ↔ o.Supplies job := by
  simp only [Supplies, Job.firstPage_withRules hr]

theorem Run.begun_stage_withRules (hr : rules.ReadsAs job.source.rules) :
    (Run.begun { job := job.withRules rules } cancelled).stage =
      (Run.begun { job } cancelled).stage := by
  obtain ⟨title, hbegun, -⟩ := Run.exists_twin_begun { job } hr { title := [] } cancelled
  have hstage := congrArg Run.stage hbegun
  exact hstage

theorem Run.walked_stage_withRules (hr : rules.ReadsAs job.source.rules) (w : Walk) (url : Text) :
    (Run.walked { job := job.withRules rules } false w
        ((job.withRules rules).pageAt o.fetch url)).stage =
      (Run.walked { job } false w (job.pageAt o.fetch url)).stage := by
  simp only [Job.pageAt, Job.rules_withRules, hr.readReply]
  exact Run.walked_stage_eq ..

/-- What two runs come to that turn the same pages into the final text. -/
theorem Run.delivered_withRules (hr : rules.ReadsAs job.source.rules) (title title' : Resolution)
    (d : Delivery) (pages : Pages) :
    (Run.delivered { job := job.withRules rules, title := title' } cancelled d pages).stage =
        (Run.delivered { job, title } cancelled d pages).stage ∨
      ∃ content, (Run.delivered { job, title } cancelled d pages).stage.Holds content ∧
        (Run.delivered { job := job.withRules rules, title := title' } cancelled d
          pages).stage.Holds content := by
  have hverdict := Job.verdict_withRules hr cancelled d pages
  cases hv : job.verdict cancelled d pages with
  | error e =>
      have hv' := hverdict.trans hv
      rw [Run.delivered_of_error (r := { job, title }) hv,
        Run.delivered_of_error (r := { job := job.withRules rules, title := title' }) hv']
      exact .inl rfl
  | ok content =>
      have hv' := hverdict.trans hv
      rw [Run.delivered_of_ok (r := { job, title }) hv,
        Run.delivered_of_ok (r := { job := job.withRules rules, title := title' }) hv']
      cases hp : d.persist with
      | true => exact .inr ⟨content, Run.holds_passed hp _ _, Run.holds_passed hp _ _⟩
      | false => exact .inl (by simp [Run.passed, hp])

/-- Every point of the one course is like the same point of the other one. -/
theorem Course.Alike.next (h : c.Alike c') (hr : rules.ReadsAs job.source.rules) :
    (c.next job o).Alike (c'.next (job.withRules rules) o) := by
  obtain ⟨hq, htext⟩ := h
  have hholds : ∀ content, c.stage.Holds content → c'.stage.Holds content →
      (c.next job o).Alike (c'.next (job.withRules rules) o) := by
    intro content hl hr'
    obtain ⟨hl, hql⟩ := next_of_holds hl job o
    obtain ⟨hr', hqr⟩ := next_of_holds hr' (job.withRules rules) o
    exact ⟨hqr.trans (hq.trans hql.symm), .inr ⟨content, hl, hr'⟩⟩
  rcases htext with hstage | ⟨content, hl, hr'⟩
  · cases hs : c.stage with
    | saving s => exact hholds s.content (hs ▸ .saving rfl) (hstage ▸ hs ▸ .saving rfl)
    | updating s => exact hholds s.content (hs ▸ .updating rfl) (hstage ▸ hs ▸ .updating rfl)
    | fresh =>
        simp only [Course.next, hstage, hs]
        exact ⟨hq, .inl (Run.begun_stage_withRules hr)⟩
    | asking w url =>
        simp only [Course.next, hstage, hs]
        exact ⟨by rw [hq]; rfl, .inl rfl⟩
    | walking w url =>
        simp only [Course.next, hstage, hs]
        exact ⟨hq, .inl (Run.walked_stage_withRules hr w url)⟩
    | spreading text texts =>
        simp only [Course.next, hstage, hs, Job.firstPage_withRules hr]
        cases job.firstPage with
        | error e => exact ⟨hq, .inl (hstage.trans hs ▸ hs.symm)⟩
        | ok first =>
            simp only [Outside.textOf_withRules hr]
            exact ⟨by rw [hq]; rfl, .inl rfl⟩
    | gathered pages =>
        simp only [Course.next, hstage, hs]
        exact ⟨hq, .inl rfl⟩
    | assembled pages =>
        cases hd : job.delivery? with
        | none =>
            have hd' : (job.withRules rules).delivery? = none := hd
            simp only [Course.next, hstage, hs, hd, hd']
            exact ⟨hq, .inl hstage⟩
        | some d =>
            have hd' : (job.withRules rules).delivery? = some d := hd
            simp only [Course.next, hstage, hs, hd, hd']
            exact ⟨hq, Run.delivered_withRules hr _ _ d pages⟩
    | ended outcome =>
        simp only [Course.next, hstage, hs]
        exact ⟨hq, .inl hstage⟩
  · exact hholds content hl hr'

/-- The courses of two jobs whose rules read alike. -/
theorem Job.course_alike (hr : rules.ReadsAs job.source.rules) (l : Nat) :
    (job.course o l).Alike ((job.withRules rules).course o l) := by
  induction l with
  | zero => exact ⟨rfl, .inl rfl⟩
  | succ l ih =>
      simp only [Job.course, Function.iterate_succ_apply'] at ih ⊢
      exact ih.next hr

/-- A run that is over stands at every later point of its course as well. -/
theorem View.OnCourse.at_end {l : Nat} (hi : v.OnCourse job o l) (hjob : v.run.job = job)
    (hover : v.run.isOver = true) (d : Nat) : v.Settled job (job.course o (l + d)) := by
  obtain ⟨hsettled, hend⟩ := hi.of_over hjob hover
  rw [← job.iterate_course, Function.iterate_fixed hend]
  exact hsettled

/-- **A run that does a job comes to an outcome** in a world that serves it, and is not cancelled. -/
structure Machine.ComesTo (o : Outside) (job : Job) (m : Machine) (r : Nat) (acts : List Action)
    (n : Machine) (outcome : Except ContentError Text) : Prop where
  fresh : m.Fresh r job
  path : m.Path acts n
  serves : o.Serves m r acts
  active : job.token ∉ n.fired
  ended : ∃ run, n.runs[r]? = some run ∧ run.stage = .ended outcome

theorem Served.comesTo {outcome : Except ContentError Text} (h : Served o job m r acts n v)
    (hm : m.Fresh r job) (hended : v.run.stage = .ended outcome) :
    m.ComesTo o job r acts n outcome := by
  obtain ⟨hr, hc, -⟩ := Machine.view?_eq_some_iff.1 h.view
  rw [Machine.isCancelled, h.job_eq, h.active] at hc
  exact ⟨hm, h.path, h.serves, by simpa using hc, v.run, hr, hended⟩

/-- It then stands at every point of its course that is late enough. -/
theorem Machine.ComesTo.exists_settled {outcome : Except ContentError Text}
    (h : m.ComesTo o job r acts n outcome) (hs : o.Supplies job) :
    ∃ v l, n.view? r = some v ∧ v.run.stage = .ended outcome ∧
      ∀ d, v.Settled job (job.course o (l + d)) := by
  obtain ⟨v, l, hv, hjob, hi⟩ := h.path.onCourse h.fresh hs h.serves h.active
  obtain ⟨run, hr, hended⟩ := h.ended
  obtain rfl := Option.some.inj ((view?_eq_some_iff.1 hv).1.symm.trans hr)
  exact ⟨v, l, hv, hended, hi.at_end hjob (by simp [Run.isOver, hended])⟩

/-- **A rule for the title makes no difference to a run, on any schedule**, if no token fires and the
pages come the same. -/
theorem Machine.ComesTo.sameText {r' : Nat} {d : Delivery} {title : Option Text}
    {outcome outcome' : Except ContentError Text} (h : m.ComesTo o job r acts n outcome)
    (h' : m'.ComesTo o (job.withTitle title) r' acts' n' outcome') (hd : job.delivery? = some d)
    (hs : o.Supplies job) :
    (n'.requestsOf r').Perm (n.requestsOf r) ∧
      (outcome' = outcome ∨ RefusedBy r acts outcome ∨ RefusedBy r' acts' outcome') := by
  have hreads := RuleSet.readsAs_title job.source.rules title
  obtain ⟨v, l, hv, hended, hsettled⟩ := h.exists_settled hs
  obtain ⟨v', l', hv', hended', hsettled'⟩ :=
    h'.exists_settled ((Outside.supplies_withRules hreads).2 hs)
  -- both runs stand where the longer of the two courses ends
  have hsettled := hsettled l'
  have hsettled' := Nat.add_comm l' l ▸ hsettled' l
  obtain ⟨hrequests, htext⟩ : (job.course o (l + l')).Alike
      ((job.withTitle title).course o (l + l')) := Job.course_alike hreads (l + l')
  refine ⟨?_, ?_⟩
  · rw [(view?_eq_some_iff.1 hv).2.2.1, (view?_eq_some_iff.1 hv').2.2.1]
    exact (hsettled'.requests.trans (.of_eq hrequests)).trans hsettled.requests.symm
  · rcases htext with hstage | ⟨content, hl, hr⟩
    · rw [← hsettled.stage, hended] at hstage
      have hsame := hended'.symm.trans (hsettled'.stage.trans hstage)
      exact .inl (Stage.ended.inj hsame)
    · rw [← hsettled.stage] at hl
      rw [← hsettled'.stage] at hr
      exact h.path.outcome_of_both_hold h'.path h.fresh h'.fresh hd hd hv hv' hl hr hended hended'

end Courses

end Content

end ChapterAssembly
