/-
**Runs by other rules.**

Two sets of rules may read all pages alike and still differ: in the rule for titles, or in a rule
for further pages that finds nothing.  A run goes by its rules only where it reads a page or turns
its pages into the final text.  So its *twin*, which does the same job by rules that read alike, and
which may know another title, makes every move that the run makes, up to the delivery; and there
both are given the same text, or fail with the same error.

Main definitions:

* `RuleSet.ReadsAs` — some rules read all pages as others do;
* `Job.withRules`, `Run.twin`, `View.twin` — the same by other rules;
* `Job.verdict`, `Run.passed` — what comes of the pages of a chapter.

Main results:

* `Move.twin` — **a twin makes every move of its run** but for the delivery and the storing;
* `Run.delivered_of_error`, `Run.delivered_of_ok` — a run is delivered as its verdict says;
* `Job.verdict_withRules` — and the verdict on a twin is the same.
-/

import ChapterAssembly.Proofs.Persistence

set_option relaxedAutoImplicit false
set_option autoImplicit false

namespace ChapterAssembly

/-! ### Rules that read alike -/

namespace RuleSet

open Content

/-- **Some rules read all pages as others do**, and replace the same in the final text. -/
structure ReadsAs (rules rules' : RuleSet) : Prop where
  extracted : ∀ wantNext address body,
    extracted rules wantNext address body = Content.extracted rules' wantNext address body
  replace : rules.replace = rules'.replace

/-- Pages are read without the rule for titles. -/
theorem readsAs_title (rules : RuleSet) (title : Option Text) :
    ReadsAs { rules with title } rules := ⟨fun _ _ _ => rfl, rfl⟩

/-- Rules for further pages that find the same links read pages alike. -/
theorem readsAs_nextPages {rules : RuleSet} {next next' : Option Text}
    (h : ∀ page, nextLinks { rules with nextPages := next } page =
      nextLinks { rules with nextPages := next' } page) :
    ReadsAs { rules with nextPages := next } { rules with nextPages := next' } where
  extracted wantNext address body := by
    simp only [Content.extracted, h]
    rfl
  replace := rfl

theorem ReadsAs.readReply {rules rules' : RuleSet} (h : rules.ReadsAs rules') (wantNext : Bool)
    (url : Text) (reply : Except FetchError FetchedPage) :
    readReply rules wantNext url reply = Content.readReply rules' wantNext url reply := by
  cases reply with
  | error e => rfl
  | ok page => cases hb : page.body <;> simp [Content.readReply, hb, h.extracted]

end RuleSet

namespace Content

variable {rules : RuleSet} {title : Resolution} {cancelled : Bool} {d : Delivery} {pages : Pages}

/-! ### Twins -/

/-- The same job by other rules. -/
def Job.withRules (job : Job) (rules : RuleSet) : Job :=
  { job with source := { job.source with rules } }

@[simp] theorem Job.rules_withRules (job : Job) : (job.withRules rules).source.rules = rules := rfl

/-- The title depends on the rule for titles only. -/
theorem Job.titleOn_withRules {job : Job} (h : rules.title = job.source.rules.title) (body : Text) :
    (job.withRules rules).titleOn body = job.titleOn body := by
  simp only [titleOn, withRules, titleFrom, h]

namespace Run

variable (r : Run)

/-- The same run by other rules, with the title that it knows. -/
def twin (rules : RuleSet) (title : Resolution) : Run :=
  { r with job := r.job.withRules rules, title }

@[simp] theorem twin_job : (r.twin rules title).job = r.job.withRules rules := rfl

@[simp] theorem twin_stage : (r.twin rules title).stage = r.stage := rfl

@[simp] theorem twin_tasks : (r.twin rules title).tasks = r.tasks := rfl

@[simp] theorem twin_target (url : Text) : (r.twin rules title).target url = r.target url := rfl

@[simp] theorem twin_endTask (i : Nat) (outcome : Except ContentError Text) :
    (r.twin rules title).endTask i outcome = (r.endTask i outcome).twin rules title := rfl

@[simp] theorem twin_wentOn (w : Walk) (candidate : Text) :
    (r.twin rules title).wentOn w candidate = (r.wentOn w candidate).twin rules title := by
  unfold wentOn
  cases w.target? candidate <;> rfl

@[simp] theorem twin_walked (w : Walk) (found : Except ContentError Extracted) :
    (r.twin rules title).walked cancelled w found =
      (r.walked cancelled w found).twin rules title := by
  unfold walked
  cases found with
  | error e => rfl
  | ok page =>
      cases cancelled with
      | true => rfl
      | false =>
          obtain ⟨text, next⟩ := page
          match next with
          | [] | _ :: _ :: _ => rfl
          | [candidate] => exact r.twin_wentOn _ _

@[simp] theorem twin_spread (text : Text) (next : List Text) :
    (r.twin rules title).spread text next = (r.spread text next).twin rules title := by
  match next with
  | [] | _ :: _ :: _ => rfl
  | [candidate] => exact r.twin_wentOn _ _

@[simp] theorem twin_collect (i : Nat) (first : Text) (texts : List (Option Text)) :
    (r.twin rules title).collect i first texts = (r.collect i first texts).twin rules title := by
  unfold collect
  simp only [twin_tasks]
  split <;> rfl

/-- A twin reads its first page as its run does, but may find another title on it. -/
theorem exists_twin_begun (hr : rules.ReadsAs r.job.source.rules) (title : Resolution)
    (cancelled : Bool) :
    ∃ title', (r.twin rules title).begun cancelled = (r.begun cancelled).twin rules title' ∧
      (rules.title = r.job.source.rules.title → title = r.title →
        title' = (r.begun cancelled).title) := by
  unfold begun
  simp only [twin_job, Job.withRules, hr.extracted]
  cases hb : r.job.first.body with
  | none => exact ⟨title, rfl, fun _ h => h⟩
  | some body =>
      refine ⟨(r.job.withRules rules).titleOn body, ?_, fun h _ => ?_⟩
      · simp only
        split
        · rfl
        · split
          · rfl
          · exact Run.twin_spread { r with title := r.job.titleOn body } _ _
      · rw [Job.titleOn_withRules h]
        simp only
        split
        · rfl
        · split
          · rfl
          · simp

end Run

/-! ### Delivery -/

/-- **What comes of the pages of a chapter**: its final text, or the reason why there is none. -/
def Job.verdict (job : Job) (cancelled : Bool) (d : Delivery) (pages : Pages) :
    Except ContentError Text :=
  match finalText pages job.source.rules.replace (Url.pageBase job.first.finalUrl) with
  | .error e => .error e
  | .ok content =>
    if !d.chapter.isVolume && Text.isBlankText content then .error (.emptyContent d.chapter.title)
    else if cancelled then .error .cancelled
    else .ok content

/-- **The verdict does not depend on the rule for titles**, nor on anything but what the rules read:
even the error of an empty chapter bears the title that the table of contents has. -/
theorem Job.verdict_withRules {job : Job} (hr : rules.ReadsAs job.source.rules) (cancelled : Bool)
    (d : Delivery) (pages : Pages) :
    (job.withRules rules).verdict cancelled d pages = job.verdict cancelled d pages := by
  simp only [verdict, withRules, hr.replace]

namespace Run

variable (r : Run)

/-- The run after it has passed its last check: it ends with its text, or has it stored first. -/
def passed (d : Delivery) (content : Text) (pages : Nat) : Run :=
  if d.persist then
    { r with
      stage := .saving { content, chapter := (d.updated r.title).1,
                         changed := (d.updated r.title).2, pages } }
  else { r with stage := .ended (.ok content) }

@[simp] theorem passed_tasks (content : Text) (n : Nat) :
    (r.passed d content n).tasks = r.tasks := by
  unfold passed; split <;> rfl

theorem twin_passed (hp : d.persist = false) (content : Text) (n : Nat) :
    (r.twin rules title).passed d content n = (r.passed d content n).twin rules title := by
  simp only [passed, hp]
  rfl

variable {r}

/-- A run that has passed its last check asks the storage to save its text, if it is to be saved. -/
theorem callOf_passed (hd : r.job.delivery? = some d) (content : Text) (n : Nat) :
    Machine.callOf (r.passed d content n) =
      if d.persist then some (.save r.job.source d.book (d.updated r.title).1 content) else none := by
  unfold passed
  cases d.persist with
  | true => simp [Machine.callOf, hd]
  | false => simp [Machine.callOf]

/-- **A run is delivered as the verdict on it says**: it fails, -/
theorem delivered_of_error {e : ContentError} (h : r.job.verdict cancelled d pages = .error e) :
    r.delivered cancelled d pages = r.fail e := by
  simp only [Job.verdict] at h
  simp only [delivered]
  cases hc : finalText pages r.job.source.rules.replace (Url.pageBase r.job.first.finalUrl) with
  | error e' =>
      simp only [hc] at h ⊢
      rw [Except.error.inj h]
  | ok content =>
      simp only [hc] at h ⊢
      by_cases hblank : (!d.chapter.isVolume && Text.isBlankText content) = true
      · rw [if_pos hblank] at h ⊢
        rw [Except.error.inj h]
      · rw [if_neg hblank] at h ⊢
        cases cancelled with
        | true =>
            obtain rfl := Except.error.inj h
            rfl
        | false => cases h

/-- or it passes its last check. -/
theorem delivered_of_ok {content : Text} (h : r.job.verdict cancelled d pages = .ok content) :
    r.delivered cancelled d pages = r.passed d content pages.length := by
  simp only [Job.verdict] at h
  simp only [delivered, passed]
  cases hc : finalText pages r.job.source.rules.replace (Url.pageBase r.job.first.finalUrl) with
  | error e => simp only [hc] at h; cases h
  | ok text =>
      simp only [hc] at h ⊢
      by_cases hblank : (!d.chapter.isVolume && Text.isBlankText text) = true
      · rw [if_pos hblank] at h
        cases h
      · rw [if_neg hblank] at h ⊢
        cases cancelled with
        | true => cases h
        | false =>
            obtain rfl := Except.ok.inj h
            rfl

/-- With the same title, a twin is delivered as its run is. -/
theorem twin_delivered (hr : rules.ReadsAs r.job.source.rules) :
    (r.twin rules r.title).delivered cancelled d pages =
      (r.delivered cancelled d pages).twin rules r.title := by
  have hverdict := Job.verdict_withRules hr cancelled d pages
  cases hv : r.job.verdict cancelled d pages with
  | error e =>
      rw [delivered_of_error hv, delivered_of_error (hverdict.trans hv)]
      rfl
  | ok content =>
      rw [delivered_of_ok hv, delivered_of_ok (hverdict.trans hv), passed, passed]
      split <;> rfl

end Run

/-! ### Moves of twins -/

/-- The view of a twin, which has asked the storage for other things. -/
def View.twin (v : View) (rules : RuleSet) (title : Resolution) (calls : List Call) : View :=
  { v with run := v.run.twin rules title, calls }

variable {r : Nat} {v v' : View} {a : Action}

/-- **A twin makes every move of its run**, up to the delivery, and asks the storage for nothing. -/
theorem Move.twin (h : Move r v a v') (hr : rules.ReadsAs v.run.job.source.rules)
    (hdeliver : a ≠ .deliver r) (ha : a.answer? r = none) (title : Resolution) (calls : List Call) :
    v'.calls = v.calls ∧
      ∃ title', Move r (v.twin rules title calls) a (v'.twin rules title' calls) ∧
        (rules.title = v.run.job.source.rules.title → title = v.run.title →
          title' = v'.run.title) := by
  have hreads := hr.readReply
  cases h with
  | other ha hc => exact ⟨rfl, title, .other ha hc, fun _ h => h⟩
  | begin hs =>
      obtain ⟨title', hb, ht⟩ := v.run.exists_twin_begun hr title v.cancelled
      refine ⟨rfl, title', ?_, ht⟩
      simpa [View.twin, hb] using Move.begin (r := r) (v := v.twin rules title calls) hs
  | notice hs hc => exact ⟨rfl, title, .notice hs hc, fun _ h => h⟩
  | request hs hc => exact ⟨rfl, title, .request hs hc, fun _ h => h⟩
  | @exchange w url reply fires hs hc =>
      have hmove : Move r (v.twin rules title calls) (.exchange r reply fires) _ := .exchange hs hc
      exact ⟨rfl, title, by simpa [View.twin, hreads] using hmove, fun _ h => by simpa using h⟩
  | @reply w url reply fires hs hc =>
      have hmove : Move r (v.twin rules title calls) (.reply r reply fires) _ := .reply hs hc
      exact ⟨rfl, title, by simpa [View.twin, hreads] using hmove, fun _ h => by simpa using h⟩
  | queue ht => exact ⟨rfl, title, .queue ht, fun _ h => h⟩
  | launch ht => exact ⟨rfl, title, .launch ht, fun _ h => h⟩
  | @answer i url reply fires ht =>
      have hmove : Move r (v.twin rules title calls) (.answer r i reply fires) _ := .answer ht
      exact ⟨rfl, title, by simpa [View.twin, hreads] using hmove, fun _ h => h⟩
  | die ht => exact ⟨rfl, title, .die ht, fun _ h => h⟩
  | drop ht => exact ⟨rfl, title, .drop ht, fun _ h => h⟩
  | collect hs hf hc =>
      have hmove := Move.collect (r := r) (v := v.twin rules title calls) hs hf hc
      exact ⟨rfl, title, by simpa [View.twin] using hmove, fun _ h => by simpa using h⟩
  | gather hs hc => exact ⟨rfl, title, .gather hs hc, fun _ h => h⟩
  | abandon hs hc => exact ⟨rfl, title, .abandon hs hc, fun _ h => h⟩
  | deliver => exact absurd rfl hdeliver
  | refuse | update | finish => simp [Action.answer?] at ha

end Content

end ChapterAssembly
