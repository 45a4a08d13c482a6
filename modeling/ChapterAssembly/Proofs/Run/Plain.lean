/-
**Runs without their journal.**

Everything that a run does on its own writes the journal, and nothing that it does depends on what
stands there.  This module says what becomes of a run as functions of the run alone, and proves
that the working run does just that, whatever its journal holds.

Main definitions:

* `Content.extracted`, `Content.readReply` — what the rules of a source find on a page, and in the
  reply to a request;
* `Job.firstPage`, `Job.titleOn` — what they find on the first page of a job;
* `Run.begun`, `Run.wentOn`, `Run.walked`, `Run.delivered` — a run after its steps.

Main results:

* `Content.extract_fst`, `Content.readFanned_fst` — reading a page does not depend on the journal;
* `Run.begin_fst`, `Run.readWalked_fst`, `Run.deliver_fst` — nor do the steps of a run.
-/

import Mathlib.Tactic.Common
import ChapterAssembly.Content.Run.Step

set_option relaxedAutoImplicit false
set_option autoImplicit false

namespace ChapterAssembly

namespace Content

/-! ### Reading a page -/

/-- What the rules of a source find on the page with the given address. -/
def extracted (rules : RuleSet) (wantNext : Bool) (address body : Text) :
    Except ContentError Extracted :=
  let page : Rule.Context := ⟨body, Url.pageBase address⟩
  (extractText rules page).map fun text =>
    { text, next := if wantNext then nextLinks rules page else [] }

/-- What the rules of a source find in the reply to the request for `url`. -/
def readReply (rules : RuleSet) (wantNext : Bool) (url : Text) :
    Except FetchError FetchedPage → Except ContentError Extracted
  | .error e => .error (.ofFetch e)
  | .ok page =>
    match page.body with
    | none => .error (.missingBody url)
    | some body => extracted rules wantNext page.finalUrl body

/-- A page is unreadable only if the content rule is broken. -/
theorem extractText_eq_error_iff {rules : RuleSet} {page : Rule.Context} {e : ContentError} :
    extractText rules page = .error e ↔
      ∃ broken, Rule.parse rules.content = .error broken ∧ e = .contentRule broken := by
  unfold extractText
  cases Rule.parse rules.content with
  | error broken => simp [Except.map, eq_comm]
  | ok rule => simp [Except.map]

theorem extracted_eq_error_iff {rules : RuleSet} {wantNext : Bool} {address body : Text}
    {e : ContentError} : extracted rules wantNext address body = .error e ↔
      extractText rules ⟨body, Url.pageBase address⟩ = .error e := by
  cases h : extractText rules ⟨body, Url.pageBase address⟩ <;> simp [extracted, h, Except.map]

/-- The pages of a chapter make no text only if the replace rule is broken. -/
theorem finalText_eq_error_iff {pages : Pages} {replace : Option Text} {base : Url}
    {e : ContentError} : finalText pages replace base = .error e ↔
      ∃ rule broken, RuleSet.given replace = some rule ∧ Rule.parse rule = .error broken ∧
        e = .replaceRule broken := by
  unfold finalText
  cases RuleSet.given replace with
  | none => simp
  | some rule =>
      cases hp : Rule.parse rule with
      | error broken => simp [Except.map, hp, eq_comm]
      | ok r => simp [Except.map, hp]

/-- **Reading a page does not depend on the journal.** -/
theorem extract_fst (source : Text) (rules : RuleSet) (wantNext : Bool) (address body : Text)
    (j : Journal) :
    (extract source rules wantNext address body j).1 = extracted rules wantNext address body := by
  unfold extracted
  rw [← Noted.pageBase_fst address j]
  exact extractIn_fst source rules wantNext ⟨body, (Noted.pageBase address j).1⟩ _

theorem readFanned_fst (source : Source) (url : Text) (reply : Except FetchError FetchedPage)
    (j : Journal) :
    (readFanned source url reply j).1 = (readReply source.rules false url reply).map (·.text) := by
  cases reply with
  | error e => rfl
  | ok page =>
      obtain ⟨requestedUrl, finalUrl, body⟩ := page
      cases body with
      | none => rfl
      | some body =>
          simp only [readReply]
          rw [← extract_fst source.key source.rules false finalUrl body j]
          rfl

/-! ### Jobs -/

namespace Job

/-- What the rules of the source find on the first page. -/
def firstPage (job : Job) : Except ContentError Extracted :=
  readReply job.source.rules true job.first.requestedUrl (.ok job.first)

/-- A first page that can be read has a body. -/
theorem exists_body_of_firstPage {job : Job} {page : Extracted} (h : job.firstPage = .ok page) :
    ∃ body, job.first.body = some body := by
  cases hb : job.first.body with
  | none => simp [firstPage, readReply, hb] at h
  | some body => exact ⟨body, rfl⟩

/-- The title that the first page gives the chapter, if the job has a delivery. -/
def titleOn (job : Job) (body : Text) : Resolution :=
  match job.delivery? with
  | none => { title := [] }
  | some d => titleFrom job.source.rules ⟨body, Url.pageBase job.first.finalUrl⟩ d.chapter.title

end Job

namespace Run

theorem resolveTitle_fst (r : Run) (body : Text) (j : Journal) :
    (r.resolveTitle body j).1 = r.job.titleOn body := by
  unfold Run.resolveTitle Job.titleOn
  cases r.job.delivery? with
  | none => rfl
  | some d =>
      simp only
      rw [← Noted.pageBase_fst r.job.first.finalUrl j]
      exact Content.resolveTitle_fst _ _ _ _ _

/-! ### From page to page -/

/-- The run after a link of its walk. -/
def wentOn (r : Run) (w : Walk) (candidate : Text) : Run :=
  match w.target? candidate with
  | none => { r with stage := .assembled w.pages }
  | some url => { r with stage := .asking (w.visit url) url }

/-- The run after its walk has come to a page. -/
def walked (r : Run) (cancelled : Bool) (w : Walk) (found : Except ContentError Extracted) : Run :=
  match found with
  | .error e => r.fail e
  | .ok page =>
    if cancelled then r.fail .cancelled
    else
      match page.next with
      | [candidate] => r.wentOn (w.push page.text) candidate
      | _ => { r with stage := .assembled (w.push page.text).pages }

theorem walkOn_fst (r : Run) (w : Walk) (candidate : Text) (j : Journal) :
    (r.walkOn false w candidate j).1 = r.wentOn w candidate := by
  unfold Run.walkOn Walk.goOn Run.wentOn
  cases w.target? candidate with
  | none => cases w.endEvent? candidate <;> rfl
  | some url => rfl

/-- **What a walk makes of a reply does not depend on the journal.** -/
theorem readWalked_fst (r : Run) (cancelled : Bool) (w : Walk) (url : Text)
    (reply : Except FetchError FetchedPage) (j : Journal) :
    (r.readWalked cancelled w url reply j).1 =
      r.walked cancelled w (readReply r.job.source.rules true url reply) := by
  cases reply with
  | error e => rfl
  | ok page =>
      obtain ⟨requestedUrl, finalUrl, body⟩ := page
      cases body with
      | none => rfl
      | some body =>
          simp only [readWalked, readReply, bind, StateT.bind]
          rw [← extract_fst r.job.source.key r.job.source.rules true finalUrl body j]
          -- the rest goes the same way whatever reading has left in the journal
          generalize extract r.job.source.key r.job.source.rules true finalUrl body j = found
          obtain ⟨found, j⟩ := found
          cases found with
          | error e => rfl
          | ok found =>
              cases cancelled with
              | true => rfl
              | false =>
                  obtain ⟨text, next⟩ := found
                  cases next with
                  | nil => rfl
                  | cons candidate rest =>
                      cases rest with
                      | nil => exact walkOn_fst r (w.push text) candidate j
                      | cons => rfl

/-! ### The first page -/

/-- The run after its first page, which names the further pages `next`. -/
def spread (r : Run) (text : Text) : List Text → Run
  | [] => { r with stage := .assembled (.ofFirst text) }
  | [candidate] =>
    let base := Url.pageBase r.job.first.finalUrl
    r.wentOn (.start base r.job.first.finalUrl r.job.nextChapter text) candidate
  | urls =>
    { r with
      stage := .spreading text (urls.map fun _ => none)
      tasks := urls.map fun url => { url } }

/-- A first page that names several others makes a task for each of them. -/
theorem spread_of_many (r : Run) (text : Text) {next : List Text} (h : 2 ≤ next.length) :
    r.spread text next =
      { r with
        stage := .spreading text (next.map fun _ => none)
        tasks := next.map fun url => { url } } := by
  match next with
  | [] | [_] => simp at h
  | _ :: _ :: _ => rfl

/-- The run after it has read its first page. -/
def begun (r : Run) (cancelled : Bool) : Run :=
  match r.job.first.body with
  | none => r.fail (.missingBody r.job.first.requestedUrl)
  | some body =>
    let r := { r with title := r.job.titleOn body }
    match extracted r.job.source.rules true r.job.first.finalUrl body with
    | .error e => r.fail e
    | .ok page => if cancelled then r.fail .cancelled else r.spread page.text page.next

/-- What a run makes of a first page that it can read. -/
theorem begun_of_firstPage {r : Run} {body : Text} {page : Extracted}
    (hb : r.job.first.body = some body) (hf : r.job.firstPage = .ok page) :
    r.begun false = { r with title := r.job.titleOn body }.spread page.text page.next := by
  simp only [Job.firstPage, readReply, hb] at hf
  simp only [begun, hb, hf, Bool.false_eq_true, if_false]

/-- A run that is cancelled by then makes nothing of it. -/
theorem begun_of_cancelled {r : Run} {body : Text} {page : Extracted}
    (hb : r.job.first.body = some body) (hf : r.job.firstPage = .ok page) :
    r.begun true = { r with title := r.job.titleOn body }.fail .cancelled := by
  simp only [Job.firstPage, readReply, hb] at hf
  simp only [begun, hb, hf, if_true]

/-- A run fails by its first page, or goes on to the pages that it names. -/
theorem begun_cases (r : Run) (cancelled : Bool) :
    (∃ title e, r.begun cancelled = { r with title }.fail e) ∨
      ∃ title page, cancelled = false ∧ r.job.firstPage = .ok page ∧
        r.begun cancelled = { r with title }.spread page.text page.next := by
  cases hf : r.job.firstPage with
  | ok page =>
      obtain ⟨body, hb⟩ := Job.exists_body_of_firstPage hf
      cases cancelled with
      | true => exact .inl ⟨_, _, begun_of_cancelled hb hf⟩
      | false => exact .inr ⟨_, page, rfl, rfl, begun_of_firstPage hb hf⟩
  | error e =>
      cases hb : r.job.first.body with
      | none => exact .inl ⟨r.title, _, by simp only [begun, hb]; rfl⟩
      | some body =>
          simp only [Job.firstPage, readReply, hb] at hf
          exact .inl ⟨_, e, by simp only [begun, hb, hf]; rfl⟩

/-- **What a run makes of its first page does not depend on the journal.** -/
theorem begin_fst (r : Run) (cancelled : Bool) (j : Journal) :
    (r.begin cancelled j).1 = r.begun cancelled := by
  unfold Run.begin begun
  cases r.job.first.body with
  | none => rfl
  | some body =>
      simp only [bind, StateT.bind]
      rw [← resolveTitle_fst r body j]
      generalize r.resolveTitle body j = t
      obtain ⟨title, j⟩ := t
      simp only
      rw [← extract_fst r.job.source.key r.job.source.rules true r.job.first.finalUrl body j]
      generalize extract r.job.source.key r.job.source.rules true r.job.first.finalUrl body j =
        found
      obtain ⟨found, j⟩ := found
      cases found with
      | error e => rfl
      | ok found =>
          cases cancelled with
          | true => rfl
          | false =>
              obtain ⟨text, next⟩ := found
              cases next with
              | nil => rfl
              | cons candidate rest =>
                  cases rest with
                  | nil =>
                      simp only [spread, Bool.false_eq_true, if_false]
                      rw [← Noted.pageBase_fst r.job.first.finalUrl j]
                      exact walkOn_fst { r with title } _ candidate _
                  | cons => rfl

/-! ### The end -/

/-- The run after it has turned its pages into the final text. -/
def delivered (r : Run) (cancelled : Bool) (d : Delivery) (pages : Pages) : Run :=
  match finalText pages r.job.source.rules.replace (Url.pageBase r.job.first.finalUrl) with
  | .error e => r.fail e
  | .ok content =>
    if !d.chapter.isVolume && Text.isBlankText content then
      r.fail (.emptyContent d.chapter.title)
    else if cancelled then r.fail .cancelled
    else if d.persist then
      let (chapter, changed) := d.updated r.title
      { r with stage := .saving { content, chapter, changed, pages := pages.length } }
    else { r with stage := .ended (.ok content) }

/-- **What a run makes of its pages does not depend on the journal.** -/
theorem deliver_fst (r : Run) (cancelled : Bool) (d : Delivery) (pages : Pages) (j : Journal) :
    (r.deliver cancelled d pages j).1 = r.delivered cancelled d pages := by
  simp only [Run.deliver, delivered, bind, StateT.bind]
  rw [← normalize_fst pages r.job.source.rules.replace (Url.pageBase r.job.first.finalUrl) j]
  generalize normalize pages r.job.source.rules.replace (Url.pageBase r.job.first.finalUrl) j = t
  obtain ⟨t, j⟩ := t
  cases t with
  | error e => rfl
  | ok content =>
      simp only
      cases !d.chapter.isVolume && Text.isBlankText content with
      | true => rfl
      | false => cases cancelled <;> cases d.persist <;> rfl

end Run

/-! ### A short chapter -/

/-- A source whose pages are nothing but text, which is the title of the chapter as well. -/
def plainSource : Source := { rules := { content := "##y", title := some "##y" } }

/-- A job to store the chapter that is the text `x`, which had no title so far. -/
def Job.short : Job where
  source := plainSource
  first := { requestedUrl := [], finalUrl := [], body := some ['x'] }
  delivery? := some { book := {}, chapter := {} }

theorem Job.firstPage_short : Job.short.firstPage = .ok { text := "\u3000\u3000x" } := by
  decide +kernel

theorem Job.titleOn_short : Job.short.titleOn ['x'] = { title := ['x'] } := by decide +kernel

/-- A run of the short job, from its first page on. -/
theorem Run.begun_short : Run.begun { job := Job.short } false =
    { job := Job.short
      stage := .assembled (.ofFirst "\u3000\u3000x")
      title := { title := ['x'] } } := by
  rw [begun_of_firstPage rfl Job.firstPage_short, Job.titleOn_short]
  rfl

end Content

end ChapterAssembly
