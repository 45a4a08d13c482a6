/-
**Runs with any evaluator of rules.**

A run asks an evaluator what the rules of its source find, and takes whatever it is answered.  This
module says what a run does with an evaluator of which nothing is known, not even that it answers
the same question twice in the same way.  The moves of a run are those with the evaluator of this
library.

Main definitions:

* `Content.Resolver`, `Resolver.css` — any evaluator, and the one of this library;
* `Resolver.readReply`, `Resolver.begun`, `Resolver.delivered` — what a run finds in a reply, and
  what it makes of its first page and of all its pages;
* `Content.MoveBy` — what an action does to a view when some evaluator resolves the rules;
* `Job.LeadsTo` — the views that a run comes to, be it with another evaluator at every move.

Main results:

* `Content.moveBy_css_iff` — **the moves of a run are those with the evaluator of this library**;
* `Machine.Path.leadsTo` — what a machine does, a run does with some evaluators.
-/

import ChapterAssembly.Proofs.Run.View

set_option relaxedAutoImplicit false
set_option autoImplicit false

namespace ChapterAssembly

namespace Content

/-- An evaluator of rules: what it finds on a page, as one text or as links. -/
structure Resolver where
  string : Text → Rule.Context → Except RuleError Text
  links : Text → Rule.Context → Except RuleError (List Text)

/-! ### What an evaluator finds -/

namespace Resolver

variable (e : Resolver)

/-- The evaluator that takes rules for selectors with substitutions. -/
def css : Resolver where
  string rule page := (Rule.parse rule).map (·.string page)
  links rule page := (Rule.parse rule).map (·.links page)

/-- The paragraphs that the content rule finds on a page. -/
def extractText (rules : RuleSet) (page : Rule.Context) : Except ContentError Text :=
  match e.string rules.content page with
  | .ok html => .ok (formatKeepImages page.base html)
  | .error err => .error (.contentRule err)

/-- The links that the rule for further pages finds; a broken rule finds none. -/
def nextLinks (rules : RuleSet) (page : Rule.Context) : List Text :=
  match RuleSet.given rules.nextPages with
  | none => []
  | some rule =>
    match e.links rule page with
    | .ok links => links
    | .error _ => []

/-- What the rules of a source find on the page with the given address. -/
def extracted (rules : RuleSet) (wantNext : Bool) (address body : Text) :
    Except ContentError Extracted :=
  let page : Rule.Context := ⟨body, Url.pageBase address⟩
  (e.extractText rules page).map fun text =>
    { text, next := if wantNext then e.nextLinks rules page else [] }

/-- What the rules of a source find in the reply to the request for `url`. -/
def readReply (rules : RuleSet) (wantNext : Bool) (url : Text) :
    Except FetchError FetchedPage → Except ContentError Extracted
  | .error err => .error (.ofFetch err)
  | .ok page =>
    match page.body with
    | none => .error (.missingBody url)
    | some body => e.extracted rules wantNext page.finalUrl body

/-- The final text of a chapter: its pages, after the replace rule if there is one. -/
def finalText (pages : Pages) (replace : Option Text) (base : Url) : Except ContentError Text :=
  match RuleSet.given replace with
  | none => .ok pages.join
  | some rule =>
    match e.string rule ⟨trimLines pages.join, base⟩ with
    | .ok t => .ok (indentLines t)
    | .error err => .error (.replaceRule err)

/-- The title that a rule finds on a page, if it finds one that is not blank. -/
def titleFrom (rules : RuleSet) (page : Rule.Context) (current : Text) : Resolution :=
  match RuleSet.given rules.title with
  | none => { title := current }
  | some rule =>
    match e.string rule page with
    | .error _ => { title := current }
    | .ok found =>
      if (Text.trim found).isEmpty then { title := current }
      else .ofText current (Text.trim found)

/-- The title that the first page of a job gives the chapter. -/
def titleOn (job : Job) (body : Text) : Resolution :=
  match job.delivery? with
  | none => { title := [] }
  | some d => e.titleFrom job.source.rules ⟨body, Url.pageBase job.first.finalUrl⟩ d.chapter.title

/-! ### What a run makes of it -/

/-- A run after it has read its first page. -/
def begun (run : Run) (cancelled : Bool) : Run :=
  match run.job.first.body with
  | none => run.fail (.missingBody run.job.first.requestedUrl)
  | some body =>
    let run := { run with title := e.titleOn run.job body }
    match e.extracted run.job.source.rules true run.job.first.finalUrl body with
    | .error err => run.fail err
    | .ok page => if cancelled then run.fail .cancelled else run.spread page.text page.next

/-- A run after it has turned its pages into the final text. -/
def delivered (run : Run) (cancelled : Bool) (d : Delivery) (pages : Pages) : Run :=
  match e.finalText pages run.job.source.rules.replace (Url.pageBase run.job.first.finalUrl) with
  | .error err => run.fail err
  | .ok content =>
    if !d.chapter.isVolume && Text.isBlankText content then
      run.fail (.emptyContent d.chapter.title)
    else if cancelled then run.fail .cancelled
    else if d.persist then
      let (chapter, changed) := d.updated run.title
      { run with stage := .saving { content, chapter, changed, pages := pages.length } }
    else { run with stage := .ended (.ok content) }

end Resolver

/-! ### Moves -/

/-- In an action run `r` has rules resolved. -/
def Action.resolves (r : Nat) : Action → Bool
  | .begin i => i == r
  | .exchange i _ _ => i == r
  | .reply i _ _ => i == r
  | .answer i _ _ _ => i == r
  | .deliver i => i == r
  | _ => false

/-- **What an action does to the view of run `r`** when `e` resolves the rules. -/
inductive MoveBy (e : Resolver) (r : Nat) (v : View) : Action → View → Prop
  /-- No rule of the run is resolved. -/
  | plain {a : Action} {v' : View} (h : Move r v a v') (ha : a.resolves r = false) :
      MoveBy e r v a v'
  | begin (hs : v.run.stage = .fresh) :
      MoveBy e r v (.begin r) { v with run := e.begun v.run v.cancelled }
  | exchange {w : Walk} {url : Text} {reply : Except FetchError FetchedPage} {fires : Bool}
      (hs : v.run.stage = .asking w url) (hc : v.cancelled = false) :
      MoveBy e r v (.exchange r reply fires) { v with
        run := v.run.walked fires w (e.readReply v.run.job.source.rules true url reply)
        cancelled := fires
        requests := v.requests ++ [(none, v.run.target url)] }
  | reply {w : Walk} {url : Text} {reply : Except FetchError FetchedPage} {fires : Bool}
      (hs : v.run.stage = .walking w url) (hc : v.cancelled = false) :
      MoveBy e r v (.reply r reply fires) { v with
        run := v.run.walked fires w (e.readReply v.run.job.source.rules true url reply)
        cancelled := fires }
  | answer {i : Nat} {url : Text} {reply : Except FetchError FetchedPage} {fires : Bool}
      (ht : v.run.tasks[i]? = some ⟨url, .fetching⟩) :
      MoveBy e r v (.answer r i reply fires) { v with
        run := v.run.endTask i
          ((e.readReply v.run.job.source.rules false url reply).map (·.text))
        cancelled := v.cancelled || fires }
  | deliver {pages : Pages} {d : Delivery} (hs : v.run.stage = .assembled pages)
      (hd : v.run.job.delivery? = some d) :
      MoveBy e r v (.deliver r) { v with
        run := e.delivered v.run v.cancelled d pages
        calls := v.calls ++ (Machine.callOf (e.delivered v.run v.cancelled d pages)).toList }

variable {r : Nat} {v v' : View} {a : Action}

/-- **The moves of a run are those with the evaluator of this library.** -/
theorem moveBy_css_iff : MoveBy .css r v a v' ↔ Move r v a v' := by
  constructor
  · intro h
    cases h with
    | plain h => exact h
    | begin hs => exact .begin hs
    | exchange hs hc => exact .exchange hs hc
    | reply hs hc => exact .reply hs hc
    | answer ht => exact .answer ht
    | deliver hs hd => exact .deliver hs hd
  · intro h
    cases h with
    | other ha hc =>
        refine .plain (.other ha hc) ?_
        cases a <;> simp_all [Action.resolves, Action.run?]
    | begin hs => exact .begin hs
    | exchange hs hc => exact .exchange hs hc
    | reply hs hc => exact .reply hs hc
    | answer ht => exact .answer ht
    | deliver hs hd => exact .deliver hs hd
    | notice hs hc => exact .plain (.notice hs hc) rfl
    | request hs hc => exact .plain (.request hs hc) rfl
    | queue ht => exact .plain (.queue ht) rfl
    | launch ht => exact .plain (.launch ht) rfl
    | die ht => exact .plain (.die ht) rfl
    | drop ht => exact .plain (.drop ht) rfl
    | collect hs hf hc => exact .plain (.collect hs hf hc) rfl
    | gather hs hc => exact .plain (.gather hs hc) rfl
    | abandon hs hc => exact .plain (.abandon hs hc) rfl
    | refuse hs => exact .plain (.refuse hs) rfl
    | update hs hc => exact .plain (.update hs hc) rfl
    | finish hs => exact .plain (.finish hs) rfl

/-- **The views that run `r` of a job comes to**, whatever resolves its rules, and be it another
evaluator at every move. -/
inductive Job.LeadsTo (r : Nat) (job : Job) : View → Prop
  | fresh (cancelled : Bool) : LeadsTo r job ⟨{ job }, cancelled, [], []⟩
  | move {v v' : View} {a : Action} (e : Resolver) :
      LeadsTo r job v → MoveBy e r v a v' → LeadsTo r job v'

/-- **What a machine does, a run does with some evaluators.** -/
theorem Machine.Path.leadsTo {m n : Machine} {acts : List Action} {job : Job}
    (h : m.Path acts n) (hm : m.Fresh r job) : ∃ v, n.view? r = some v ∧ job.LeadsTo r v :=
  h.view_induction (I := fun _ v => job.LeadsTo r v) hm.view (.fresh _)
    fun _ _ _ _ _ _ _ hi hmove => hi.move .css (moveBy_css_iff.2 hmove)

end Content

end ChapterAssembly
