/-
**How a chapter is stored.**

A run that is to store its chapter asks the storage for two things at most: to save the text, and,
once that is done, to bring the table of contents up to date if the title of the chapter has
changed.  Each step of a run moves it forward in a small *ledger* of its stage, of what it asked
the storage, and of what it was answered; what is promised of the storing is read off there.

Main definitions:

* `answersTo` — what the storage answers a run;
* `Chapter.retitled` — a chapter with the title that was found for it;
* `Ledger` — how far the storing of a chapter has come;
* `Discipline` — what is promised of the storing.

Main results:

* `Delivery.updated_eq` — the working run sees a change just where the chapter changes;
* `Ledger.move` — every move of a run goes forward in the ledger;
* `Machine.Path.stores_in_order` — **every run keeps the discipline at every moment**.
-/

import ChapterAssembly.Proofs.Run.Stage

set_option relaxedAutoImplicit false
set_option autoImplicit false

namespace ChapterAssembly

namespace Content

/-! ### What the storage answers -/

/-- What the storage answered run `r`, the oldest first. -/
def answersTo (r : Nat) (acts : List Action) : List (Except StorageError Unit) :=
  acts.filterMap (Action.answer? r)

theorem answersTo_snoc (r : Nat) (acts : List Action) (a : Action) :
    answersTo r (acts ++ [a]) = answersTo r acts ++ (a.answer? r).toList := by
  simp only [answersTo, List.filterMap_append]
  cases h : a.answer? r <;> simp [h]

namespace Call

/-- The text of a chapter is to be saved. -/
def isSave : Call → Bool
  | save .. => true
  | update _ => false

/-- The table of contents is to be brought up to date. -/
def isUpdate : Call → Bool
  | save .. => false
  | update _ => true

section

variable {source : Source} {book : Book} {chapter : Chapter} {content : Text}

@[simp] theorem isSave_save : (save source book chapter content).isSave = true := rfl

@[simp] theorem isSave_update : (update chapter).isSave = false := rfl

@[simp] theorem isUpdate_save : (save source book chapter content).isUpdate = false := rfl

@[simp] theorem isUpdate_update : (update chapter).isUpdate = true := rfl

end

end Call

/-! ### What is stored -/

/-- The chapter with the title that was found for it, and with the image if one was found. -/
def Delivery.retitled (d : Delivery) (t : Resolution) : Chapter :=
  { d.chapter with title := t.title, reviewImage := t.image.or d.chapter.reviewImage }

/-- A text does for a chapter if the chapter is a mere heading or the text is not blank. -/
def Delivery.Takes (d : Delivery) (content : Text) : Prop :=
  d.chapter.isVolume = false → ∃ c ∈ content, Text.isBlank c = false

theorem Delivery.takes_of_not_blank {d : Delivery} {content : Text}
    (h : d.chapter.isVolume = false → Text.isBlankText content = false) : d.Takes content := by
  intro hv
  simpa [Text.isBlankText] using h hv

/-- A title changes the table of contents just where it changes the chapter. -/
theorem Resolution.changes_iff (d : Delivery) (t : Resolution) :
    t.changes d.chapter.title d.chapter.reviewImage = true ↔ d.retitled t ≠ d.chapter := by
  obtain ⟨title, image⟩ := t
  obtain ⟨book, ⟨bookUrl, index, url, old, isVolume, oldImage⟩, persist⟩ := d
  -- only the title and the image are written, and the image only if there is one
  simp only [Resolution.changes, Delivery.retitled, Bool.or_eq_true, Bool.and_eq_true, bne_iff_ne,
    ne_eq, Chapter.mk.injEq, true_and]
  cases image with
  | none => simp
  | some image => simp [Decidable.or_iff_not_imp_left]

/-- **The working run sees a change just where the chapter changes.** -/
theorem Delivery.updated_eq (d : Delivery) (t : Resolution) :
    d.updated t = (d.retitled t, decide (d.retitled t ≠ d.chapter)) := by
  unfold Delivery.updated
  by_cases h : t.changes d.chapter.title d.chapter.reviewImage = true
  · rw [if_pos h, decide_eq_true ((Resolution.changes_iff d t).1 h)]
    rfl
  · have heq : d.retitled t = d.chapter :=
      Decidable.not_not.1 fun hne => h ((Resolution.changes_iff d t).2 hne)
    rw [if_neg h, heq]
    simp

/-- What a run stores is the text of its chapter, with the chapter as its first page titles it. -/
structure Saving.Sound (job : Job) (d : Delivery) (s : Saving) : Prop where
  persist : d.persist = true
  titled : ∃ body, job.first.body = some body ∧ s.chapter = d.retitled (job.titleOn body)
  changed : s.changed = true ↔ s.chapter ≠ d.chapter
  takes : d.Takes s.content

/-! ### Titles -/

/-- The title of a run that has begun, and has not failed, is that of its first page. -/
def Run.Titled (r : Run) : Prop :=
  r.stage = .fresh ∨ (∃ e, r.stage = .ended (.error e)) ∨
    ∃ body, r.job.first.body = some body ∧ r.title = r.job.titleOn body

namespace Run

variable (r : Run)

@[simp] theorem wentOn_title (w : Walk) (candidate : Text) :
    (r.wentOn w candidate).title = r.title := by
  unfold wentOn; split <;> rfl

@[simp] theorem spread_title (text : Text) (next : List Text) :
    (r.spread text next).title = r.title := by
  unfold spread; split <;> simp

@[simp] theorem walked_title (cancelled : Bool) (w : Walk) (found : Except ContentError Extracted) :
    (r.walked cancelled w found).title = r.title := by
  unfold walked
  split
  · rfl
  · split
    · rfl
    · split <;> simp

@[simp] theorem collect_title (i : Nat) (first : Text) (texts : List (Option Text)) :
    (r.collect i first texts).title = r.title := by
  unfold collect; split <;> rfl

@[simp] theorem delivered_title (cancelled : Bool) (d : Delivery) (pages : Pages) :
    (r.delivered cancelled d pages).title = r.title := by
  unfold delivered
  split
  · rfl
  · (repeat' split) <;> rfl

theorem titled_begun (cancelled : Bool) : (r.begun cancelled).Titled := by
  unfold begun
  split
  · exact .inr (.inl ⟨_, rfl⟩)
  · next body hbody =>
    simp only
    split
    · exact .inr (.inl ⟨_, rfl⟩)
    · split
      · exact .inr (.inl ⟨_, rfl⟩)
      · exact .inr (.inr ⟨body, by simpa using hbody, by simp⟩)

end Run

variable {job : Job} {d : Delivery} {r : Nat} {v v' : View} {a : Action}

/-- The title stays as it is once the run has begun. -/
theorem Move.titled (h : Move r v a v') (ht : v.run.Titled) : v'.run.Titled := by
  -- all moves but the first keep the title, and none leads back to a fresh run
  have keep : v'.run.title = v.run.title → v.run.stage ≠ .fresh →
      (∀ e, v.run.stage = .ended (.error e) → v'.run.stage = .ended (.error e)) →
      v'.run.Titled := by
    intro htitle hfresh hended
    rcases ht with hs | ⟨e, hs⟩ | ⟨body, hbody, hs⟩
    · exact absurd hs hfresh
    · exact .inr (.inl ⟨e, hended e hs⟩)
    · exact .inr (.inr ⟨body, h.job ▸ hbody, by rw [htitle, hs, h.job]⟩)
  cases h with
  | begin => exact Run.titled_begun ..
  | notice => exact .inr (.inl ⟨_, rfl⟩)
  | request hs => exact keep rfl (by simp [hs]) (by simp [hs])
  | exchange hs => exact keep (by simp) (by simp [hs]) (by simp [hs])
  | reply hs => exact keep (by simp) (by simp [hs]) (by simp [hs])
  | collect hs => exact keep (by simp) (by simp [hs]) (by simp [hs])
  | gather hs => exact keep rfl (by simp [hs]) (by simp [hs])
  | abandon => exact .inr (.inl ⟨_, rfl⟩)
  | deliver hs => exact keep (by simp) (by simp [hs]) (by simp [hs])
  | refuse => exact .inr (.inl ⟨_, rfl⟩)
  | update hs => exact keep rfl (by simp [hs]) (by simp [hs])
  | finish hs =>
      rcases hs with ⟨hs, -⟩ | hs
      · exact keep rfl (by simp [hs]) (by simp [hs])
      · exact keep rfl (by simp [hs]) (by simp [hs])
  | _ => exact ht

/-! ### The ledger -/

/-- What a run asks for when it saves a text. -/
def Saving.save (job : Job) (d : Delivery) (s : Saving) : Call :=
  .save job.source d.book s.chapter s.content

/-- **How far the storing of a chapter has come**: the stage of its run, what the run asked the
storage, and what it was answered. -/
inductive Ledger (job : Job) (d : Delivery) :
    Stage → List Call → List (Except StorageError Unit) → Prop
  | early {stage : Stage} (ho : stage.isOpen = true) : Ledger job d stage [] []
  | failed {e : ContentError} (he : e.comesEarly = true) :
      Ledger job d (.ended (.error e)) [] []
  | kept {content : Text} (hp : d.persist = false) (hc : d.Takes content) :
      Ledger job d (.ended (.ok content)) [] []
  | saving {s : Saving} (hs : s.Sound job d) : Ledger job d (.saving s) [s.save job d] []
  | unsaved {s : Saving} {e : StorageError} (hs : s.Sound job d) :
      Ledger job d (.ended (.error (.storage e))) [s.save job d] [.error e]
  | saved {s : Saving} (hs : s.Sound job d) (hc : s.changed = false) :
      Ledger job d (.ended (.ok s.content)) [s.save job d] [.ok ()]
  | updating {s : Saving} (hs : s.Sound job d) (hc : s.changed = true) :
      Ledger job d (.updating s) [s.save job d, .update s.chapter] [.ok ()]
  | outdated {s : Saving} {e : StorageError} (hs : s.Sound job d) (hc : s.changed = true) :
      Ledger job d (.ended (.error (.storage e))) [s.save job d, .update s.chapter]
        [.ok (), .error e]
  | updated {s : Saving} (hs : s.Sound job d) (hc : s.changed = true) :
      Ledger job d (.ended (.ok s.content)) [s.save job d, .update s.chapter] [.ok (), .ok ()]

/-- What a run stores once it has passed its last check is sound. -/
theorem Saving.sound_of_titled {run : Run} {pages : Pages} {content : Text} {n : Nat}
    (ht : run.Titled) (hs : run.stage = .assembled pages) (hp : d.persist = true)
    (hc : d.Takes content) :
    Saving.Sound run.job d ⟨content, (d.updated run.title).1, (d.updated run.title).2, n⟩ := by
  obtain ⟨body, hbody, htitle⟩ : ∃ body, run.job.first.body = some body ∧
      run.title = run.job.titleOn body := by
    simpa [Run.Titled, hs] using ht
  rw [Delivery.updated_eq, htitle]
  exact ⟨hp, ⟨body, hbody, rfl⟩, by simp, hc⟩

/-- **Every move of a run goes forward in the ledger.** -/
theorem Ledger.move {answers : List (Except StorageError Unit)}
    (hl : Ledger v.run.job d v.run.stage v.calls answers) (h : Move r v a v')
    (hd : v.run.job.delivery? = some d) (ht : v.run.Titled) (he : v.run.TasksComeEarly) :
    Ledger v.run.job d v'.run.stage v'.calls (answers ++ (a.answer? r).toList) := by
  by_cases hend : ∃ outcome, v.run.stage = .ended outcome
  · -- a run that has ended is not answered, and stays as it is
    obtain ⟨outcome, hs⟩ := hend
    obtain ⟨hs', hc⟩ := h.of_ended hs
    rw [hs', hc, ← hs, h.answer?_eq_none (by rw [hs]; rfl)]
    simpa using hl
  generalize hstage : v.run.stage = stage at hl hend
  generalize hcalls : v.calls = calls at hl
  cases hl with
  | early ho =>
      rw [h.answer?_eq_none (by rw [hstage]; exact stores_of_isOpen ho)]
      rcases h.of_open (by rw [hstage]; exact ho) he with
        ⟨ho', hc⟩ | ⟨e, hs, he, hc, -⟩ | ⟨pages, d', content, -, -, hs, hd', hb, hp⟩
      · rw [hc, hcalls]
        exact .early ho'
      · rw [hs, hc, hcalls]
        exact .failed he
      · obtain rfl : d' = d := Option.some.inj (hd'.symm.trans hd)
        have htakes := Delivery.takes_of_not_blank hb
        cases hpersist : d'.persist with
        | true =>
            rw [hpersist, if_pos rfl] at hp
            rw [hp.1, hp.2, hcalls]
            exact .saving (Saving.sound_of_titled ht hs hpersist htakes)
        | false =>
            rw [hpersist, if_neg (by simp)] at hp
            rw [hp.1, hp.2, hcalls]
            exact .kept hpersist htakes
  | @saving s hs =>
      rcases h.of_stores (by rw [hstage]; rfl) with
        ⟨hs', hc, ha⟩ | ⟨e, hs', hc, ha⟩ | ⟨ha, ⟨t, ht, hchanged, hs', hc⟩ | ⟨t, ht, hs', hc⟩⟩
      · rw [hs', hc, ha, hstage, hcalls]
        exact .saving hs
      · rw [hs', hc, ha, hcalls]
        exact .unsaved hs
      · obtain rfl : s = t := by simpa [hstage] using ht
        rw [hs', hc, ha, hcalls]
        exact .updating hs hchanged
      · obtain ⟨rfl, hchanged⟩ : s = t ∧ t.changed = false := by simpa [hstage] using ht
        rw [hs', hc, ha, hcalls]
        exact .saved hs hchanged
  | @updating s hs hchanged =>
      rcases h.of_stores (by rw [hstage]; rfl) with
        ⟨hs', hc, ha⟩ | ⟨e, hs', hc, ha⟩ | ⟨ha, ⟨t, ht, -⟩ | ⟨t, ht, hs', hc⟩⟩
      · rw [hs', hc, ha, hstage, hcalls]
        exact .updating hs hchanged
      · rw [hs', hc, ha, hcalls]
        exact .outdated hs hchanged
      · simp [hstage] at ht
      · obtain rfl : s = t := by simpa [hstage] using ht
        rw [hs', hc, ha, hcalls]
        exact .updated hs hchanged
  | _ => exact absurd ⟨_, rfl⟩ hend

/-! ### The discipline -/

/-- **What is promised of the storing of a chapter**, at every moment of its run: it is stored in
order and once, only if that is asked for, and an error of the storage is passed on. -/
structure Discipline (job : Job) (d : Delivery) (stage : Stage) (calls : List Call)
    (answers : List (Except StorageError Unit)) : Prop where
  save_once : calls.countP Call.isSave ≤ 1
  update_once : calls.countP Call.isUpdate ≤ 1
  /-- The run asks for one thing at a time, and no answer comes unasked. -/
  one_at_a_time : answers.length ≤ calls.length ∧ calls.length ≤ answers.length + 1
  /-- Nothing is stored unless that is asked for. -/
  nothing_unasked : d.persist = false → calls = []
  /-- Nothing is stored of a chapter that fails before the storage does. -/
  nothing_failed : ∀ e, stage = .ended (.error e) → (∀ s, e ≠ .storage s) → calls = []
  /-- The text that the run ends with is saved, with the chapter as its first page titles it, and
  the table of contents is brought up to date just if that chapter is another one. -/
  stored : ∀ content, stage = .ended (.ok content) → d.persist = true →
    ∃ body, job.first.body = some body ∧
      calls = .save job.source d.book (d.retitled (job.titleOn body)) content ::
        (if d.retitled (job.titleOn body) = d.chapter then []
          else [.update (d.retitled (job.titleOn body))]) ∧
      answers = calls.map fun _ => .ok ()
  /-- The table of contents is brought up to date only after the text was saved. -/
  update_saved : ∀ chapter, .update chapter ∈ calls → answers.head? = some (.ok ())
  /-- The table of contents stays as it is if the text is not saved. -/
  update_refused : ∀ e, answers.head? = some (.error e) → calls.countP Call.isUpdate = 0
  /-- The run ends with an error of the storage just if the storage answered so. -/
  refused_iff : ∀ e, stage = .ended (.error (.storage e)) ↔ .error e ∈ answers
  /-- The text of a chapter has something in it unless the chapter is a mere heading. -/
  filled : ∀ content, stage = .ended (.ok content) → d.chapter.isVolume = false →
    ∃ c ∈ content, Text.isBlank c = false

/-- What is promised of the storing is read off the ledger. -/
theorem Ledger.discipline {stage : Stage} {calls : List Call}
    {answers : List (Except StorageError Unit)} (h : Ledger job d stage calls answers) :
    Discipline job d stage calls answers := by
  -- of a text that was stored, the run knows the chapter and whether it is another one
  have stored : ∀ s : Saving, s.Sound job d → ∃ body, job.first.body = some body ∧
      s.save job d = .save job.source d.book (d.retitled (job.titleOn body)) s.content ∧
      s.chapter = d.retitled (job.titleOn body) ∧
      (s.changed = true ↔ d.retitled (job.titleOn body) ≠ d.chapter) := by
    intro s hs
    obtain ⟨body, hbody, hchapter⟩ := hs.titled
    exact ⟨body, hbody, by rw [Saving.save, hchapter], hchapter, hchapter ▸ hs.changed⟩
  cases h with
  | early ho =>
      have hended : ∀ outcome, stage ≠ .ended outcome := by
        rintro outcome rfl
        simp [Stage.isOpen] at ho
      constructor <;> simp [hended]
  | @failed e he =>
      have hstorage : ∀ s, e ≠ .storage s := by
        rintro s rfl
        simp [ContentError.comesEarly] at he
      constructor <;> simp [hstorage]
  | kept hp hc =>
      constructor
      case stored => simp [hp]
      case filled =>
        rintro _ ⟨⟩
        exact hc
      all_goals simp
  | saving hs => constructor <;> simp [Saving.save, hs.persist]
  | unsaved hs =>
      constructor
      case refused_iff =>
        intro e
        simpa using eq_comm
      all_goals simp [Saving.save, hs.persist]
  | @saved s hs hc =>
      obtain ⟨body, hbody, hsave, -, hchanged⟩ := stored s hs
      constructor
      case stored =>
        rintro _ ⟨⟩ -
        refine ⟨body, hbody, ?_, rfl⟩
        rw [hsave, if_pos (by simpa [hc] using hchanged)]
      case filled =>
        rintro _ ⟨⟩
        exact hs.takes
      all_goals simp [Saving.save, hs.persist]
  | updating hs hc => constructor <;> simp [Saving.save, List.countP_cons, hs.persist]
  | outdated hs hc =>
      constructor
      case refused_iff =>
        intro e
        simpa using eq_comm
      all_goals simp [Saving.save, List.countP_cons, hs.persist]
  | @updated s hs hc =>
      obtain ⟨body, hbody, hsave, hchapter, hchanged⟩ := stored s hs
      constructor
      case stored =>
        rintro _ ⟨⟩ -
        refine ⟨body, hbody, ?_, rfl⟩
        rw [hsave, hchapter, if_neg (hchanged.1 hc)]
      case filled =>
        rintro _ ⟨⟩
        exact hs.takes
      all_goals simp [Saving.save, List.countP_cons, hs.persist]

/-! ### Every run -/

variable {m n : Machine} {acts : List Action}

/-- A run on a path stands in the ledger. -/
theorem Machine.Path.ledger (hp : m.Path acts n) (hm : m.Fresh r job)
    (hd : job.delivery? = some d) :
    ∃ run, n.runs[r]? = some run ∧ run.job = job ∧
      Ledger job d run.stage (n.callsOf r) (answersTo r acts) := by
  -- the ledger is kept by every move together with the job, the title and the errors of the tasks
  let I : List Action → View → Prop := fun acts v =>
    v.run.job = job ∧ v.run.Titled ∧ v.run.TasksComeEarly ∧
      Ledger job d v.run.stage v.calls (answersTo r acts)
  obtain ⟨v, hv, hjob, -, -, hl⟩ := hp.view_induction (I := I) hm.view
    ⟨rfl, .inl rfl, Run.tasksFailBy_fresh job _, .early rfl⟩ (by
      rintro before k a v v' - - ⟨rfl, htitled, htasks, hl⟩ hmove
      refine ⟨hmove.job, hmove.titled htitled, hmove.tasksComeEarly htasks, ?_⟩
      rw [answersTo_snoc]
      exact hl.move hmove hd htitled htasks)
  obtain ⟨hr, -, -, hc⟩ := Machine.view?_eq_some_iff.1 hv
  exact ⟨v.run, hr, hjob, hc ▸ hl⟩

/-- **Every run keeps the discipline of storing at every moment**, whatever the other runs do,
whatever is answered to it, and whenever its token fires. -/
theorem Machine.Path.stores_in_order (hm : m.Fresh r job) (hd : job.delivery? = some d)
    (hp : m.Path acts n) :
    ∃ run, n.runs[r]? = some run ∧
      Discipline job d run.stage (n.callsOf r) (answersTo r acts) := by
  obtain ⟨run, hr, -, hl⟩ := hp.ledger hm hd
  exact ⟨run, hr, hl.discipline⟩

/-- A short chapter under a new title is saved, and then the table of contents is brought up to
date. -/
theorem Machine.stores_in_order_short : ∃ acts n run,
    (Machine.ofJobs (.ofSize 1) [Job.short]).Path acts n ∧ n.runs[0]? = some run ∧
      run.stage = .ended (.ok "\u3000\u3000x") ∧ answersTo 0 acts = [.ok (), .ok ()] ∧
      Discipline Job.short ⟨{}, {}, true⟩ run.stage (n.callsOf 0) (answersTo 0 acts) := by
  have hm : (Machine.ofJobs (.ofSize 1) [Job.short]).Fresh 0 Job.short := Machine.fresh_ofJobs rfl _
  have hbegin : Move 0 ⟨{ job := Job.short }, false, [], []⟩ (.begin 0) ⟨_, false, [], []⟩ :=
    .begin rfl
  rw [Run.begun_short] at hbegin
  obtain ⟨_, h1, v1⟩ := Machine.Path.nil.move hm.view hbegin rfl (by simp)
  obtain ⟨_, h2, v2⟩ := h1.move v1 (.deliver rfl rfl) rfl (by simp)
  obtain ⟨_, h3, v3⟩ := h2.move v2 (.update rfl rfl) rfl (by simp)
  obtain ⟨n, h4, v4⟩ := h3.move v3 (.finish (.inr rfl)) rfl (by simp)
  obtain ⟨run, hr, h⟩ := Machine.Path.stores_in_order hm rfl h4
  obtain ⟨hr', -⟩ := Machine.view?_eq_some_iff.1 v4
  obtain rfl := Option.some.inj (hr.symm.trans hr')
  exact ⟨_, n, _, h4, hr, rfl, rfl, h⟩

end Content

end ChapterAssembly
