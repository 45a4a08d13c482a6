/-
**Rules of best effort.**

Of the rules of a source, those for the title and for further pages are best effort.  A broken rule
for further pages is as good as none: the twin of a run, which goes by no such rule, goes step by
step with it.  And the text of a page is found without either of them.

Main definitions:

* `Twins` — a run, and the same by other rules;
* `Job.withNext` — a job with another rule for further pages;
* `SameRun` — what is promised of two runs that differ in it;
* `BestEffort` — what is promised of the rules of best effort.

Main results:

* `Twins.paired` — every move keeps two runs twins;
* `extract_text` — the text of a page does not depend on the rule for further pages;
* `Machine.Fresh.sameRun` — rules for further pages that find the same links are the same to a run;
* `Machine.Fresh.bestEffort` — **the rules for the title and for further pages are best effort**.
-/

import ChapterAssembly.Proofs.Title

set_option relaxedAutoImplicit false
set_option autoImplicit false

namespace ChapterAssembly

namespace Content

variable {job : Job} {rules : RuleSet} {r : Nat} {m n : Machine} {acts : List Action}

/-! ### Further pages -/

/-- A call that comes from another source. -/
def Call.withSource (source : Source) : Call → Call
  | .save _ book chapter content => .save source book chapter content
  | .update chapter => .update chapter

/-- What a twin asks of the storage, it asks as what its run asks, but for the rules of its source. -/
theorem Machine.callOf_twin (run : Run) (title : Resolution) :
    Machine.callOf (run.twin rules title) =
      (Machine.callOf run).map (Call.withSource (run.job.withRules rules).source) := by
  unfold Machine.callOf
  cases hs : run.stage <;> cases hd : run.job.delivery? <;>
    simp [hs, hd, Job.withRules, Call.withSource]

/-- **A run that does a job, and its twin that knows the same title.** -/
structure Twins (job : Job) (rules : RuleSet) (v v' : View) : Prop where
  does : v.run.job = job
  twin : v' = v.twin rules v.run.title (v.calls.map (Call.withSource (job.withRules rules).source))

/-- **Twins go on as twins**, if their rules read alike and have the same rule for the title. -/
theorem Twins.paired (hreads : rules.ReadsAs job.source.rules)
    (htitle : rules.title = job.source.rules.title) (r : Nat) :
    Paired r (fun _ => True) (Twins job rules) where
  token h := by rw [h.twin]; rfl
  other h hc := ⟨h.does, by rw [h.twin]; rfl⟩
  own {v v' a w} h hmove ha _ := by
    obtain ⟨rfl, rfl⟩ := h
    suffices hmove' : Move r (v.twin rules v.run.title (v.calls.map
        (Call.withSource (v.run.job.withRules rules).source))) a (w.twin rules w.run.title
          (w.calls.map (Call.withSource (v.run.job.withRules rules).source))) from
      ⟨_, hmove', hmove.job, rfl⟩
    by_cases hdeliver : a = .deliver r
    · subst hdeliver
      cases hmove with
      | other ha' => exact absurd ha ha'
      | @deliver pages d hs hd =>
          have hmove' := Move.deliver (r := r) (v := v.twin rules v.run.title (v.calls.map
            (Call.withSource (v.run.job.withRules rules).source))) hs hd
          simpa [View.twin, Run.twin_delivered hreads, Machine.callOf_twin, Option.toList_map]
            using hmove'
    · cases hn : a.answer? r with
      | none =>
          obtain ⟨hcalls, title', hmove', ht⟩ := hmove.twin hreads hdeliver hn v.run.title
            (v.calls.map (Call.withSource (v.run.job.withRules rules).source))
          rw [hcalls, ← ht htitle rfl]
          exact hmove'
      | some result =>
          obtain rfl := Action.answer?_eq_some_iff.1 hn
          cases hmove with
          | other ha' => exact absurd ha ha'
          | refuse hs => exact .refuse hs
          | update hs hc =>
              have hmove' := Move.update (r := r) (v := v.twin rules v.run.title (v.calls.map
                (Call.withSource (v.run.job.withRules rules).source))) hs hc
              simpa [View.twin, Run.twin, Call.withSource] using hmove'
          | finish hs => exact .finish hs

/-- The job with another rule for further pages. -/
def Job.withNext (job : Job) (next : Option Text) : Job :=
  job.withRules { job.source.rules with nextPages := next }

/-- A broken rule for further pages finds none, as one that is not there. -/
theorem nextLinks_of_broken {rule : Text} {e : RuleError} (h : Rule.parse rule = .error e)
    (rules : RuleSet) (page : Rule.Context) :
    nextLinks { rules with nextPages := some rule } page =
      nextLinks { rules with nextPages := none } page := by
  show _ = ([] : List Text)
  unfold nextLinks
  cases hg : RuleSet.given (some rule) with
  | none => rfl
  | some rule' =>
      obtain rfl : rule = rule' := by
        simpa using Option.eq_some_of_filter_eq_some hg
      simp [h, Except.map]

/-- The text of a page is found without the rule for further pages, and whether or not these are
wanted. -/
theorem extract_text (source : Text) (rules : RuleSet) (next next' : Option Text)
    (wantNext wantNext' : Bool) (address body : Text) (j j' : Journal) :
    (extract source { rules with nextPages := next } wantNext address body j).1.map (·.text) =
      (extract source { rules with nextPages := next' } wantNext' address body j').1.map
        (·.text) := by
  have htext : ∀ page, extractText { rules with nextPages := next } page =
      extractText { rules with nextPages := next' } page := fun _ => rfl
  rw [extract_fst, extract_fst, extracted, extracted, htext]
  cases extractText { rules with nextPages := next' } ⟨body, Url.pageBase address⟩ <;> rfl

/-- **What is promised of two runs of a job with different rules for further pages that find the
same links**, after the same actions. -/
structure SameRun (r : Nat) (source : Source) (n n' : Machine) (run run' : Run) : Prop where
  stage : run'.stage = run.stage
  requests : n'.requestsOf r = n.requestsOf r
  /-- They ask the storage for the same, each on behalf of its own source. -/
  calls : n'.callsOf r = (n.callsOf r).map (Call.withSource source)
  /-- No other run sees a difference. -/
  others : ∀ i, i ≠ r → n'.view? i = n.view? i

namespace Machine

/-- **A rule for further pages that finds the same links makes no difference to a run.** -/
theorem Fresh.sameRun (hm : m.Fresh r job) {next next' : Option Text}
    (h : ∀ page, nextLinks { job.source.rules with nextPages := next' } page =
      nextLinks { job.source.rules with nextPages := next } page)
    (hp : (m.given r (job.withNext next)).Path acts n) :
    ∃ n' run run', (m.given r (job.withNext next')).Path acts n' ∧ n.runs[r]? = some run ∧
      n'.runs[r]? = some run' ∧ SameRun r (job.withNext next').source n n' run run' := by
  have hbeside : (m.given r (job.withNext next)).Beside r
      (Twins (job.withNext next) { job.source.rules with nextPages := next' })
      (m.given r (job.withNext next')) := by
    rw [← given_given m r (job.withNext next) (job.withNext next')]
    exact (hm.given (job.withNext next)).beside rfl fun cancelled => ⟨rfl, rfl⟩
  have hreads : RuleSet.ReadsAs { job.source.rules with nextPages := next' }
      (job.withNext next).source.rules := RuleSet.readsAs_nextPages h
  obtain ⟨n', hp', hbeside⟩ := hbeside.path (Twins.paired hreads rfl r) hp fun _ _ => trivial
  obtain ⟨v, v', hv, hv', -, rfl⟩ := hbeside.views
  obtain ⟨hr, -, hq, hc⟩ := view?_eq_some_iff.1 hv
  obtain ⟨hr', -, hq', hc'⟩ := view?_eq_some_iff.1 hv'
  refine ⟨n', _, _, hp', hr, hr', rfl, hq'.trans hq.symm, ?_, hbeside.others⟩
  rw [hc', hc]
  rfl

end Machine

/-! ### Best effort -/

/-- **What is promised of the rules of best effort** for run `r`, which does a job. -/
structure BestEffort (m : Machine) (r : Nat) (job : Job) : Prop where
  /-- With another rule for the title a run comes to the same text or the same error on the same
  schedule, unless the storage refuses it something, -/
  title : ∀ title acts n acts' n', m.Path acts n → (m.given r (job.withTitle title)).Path acts' n' →
    unstored r acts' = unstored r acts →
      ∃ run run', n.runs[r]? = some run ∧ n'.runs[r]? = some run' ∧
        SameText r acts acts' n n' run run'
  /-- which it can be given, whatever the storage answers. -/
  title_goes_on : ∀ title acts n x y, m.Path acts n → ∃ acts' n' run',
    (m.given r (job.withTitle title)).Path acts' n' ∧ unstored r acts' = unstored r acts ∧
      answersTo r acts' <+: [x, y] ∧ n'.runs[r]? = some run' ∧ run'.stage.stores = false
  /-- It does so on any other schedule and in any other company as well, if it is not cancelled and
  the pages come the same. -/
  title_anywhere : ∀ o : Outside, o.Supplies job →
    ∀ title acts n outcome (m' : Machine) r' acts' n' outcome',
      m.ComesTo o job r acts n outcome → m'.ComesTo o (job.withTitle title) r' acts' n' outcome' →
        (n'.requestsOf r').Perm (n.requestsOf r) ∧
          (outcome' = outcome ∨ RefusedBy r acts outcome ∨ RefusedBy r' acts' outcome')
  /-- A run goes with a broken rule for further pages as it goes with none, -/
  broken : ∀ rule e, Rule.parse rule = .error e → ∀ acts n,
    (m.given r (job.withNext (some rule))).Path acts n →
      ∃ n' run run', (m.given r (job.withNext none)).Path acts n' ∧ n.runs[r]? = some run ∧
        n'.runs[r]? = some run' ∧ SameRun r (job.withNext none).source n n' run run'
  /-- and with none as with a broken one. -/
  absent : ∀ rule e, Rule.parse rule = .error e → ∀ acts n,
    (m.given r (job.withNext none)).Path acts n →
      ∃ n' run run', (m.given r (job.withNext (some rule))).Path acts n' ∧ n.runs[r]? = some run ∧
        n'.runs[r]? = some run' ∧ SameRun r (job.withNext (some rule)).source n n' run run'
  /-- The text of a page is found, or not, whatever the rule for further pages is, and whether or not
  these are wanted. -/
  text : ∀ source (rules : RuleSet) next next' wantNext wantNext' address body j j',
    (extract source { rules with nextPages := next } wantNext address body j).1.map (·.text) =
      (extract source { rules with nextPages := next' } wantNext' address body j').1.map (·.text)

/-- **The rules for the title and for further pages are best effort** in every run that delivers a
chapter. -/
theorem Machine.Fresh.bestEffort {d : Delivery} (hm : m.Fresh r job)
    (hd : job.delivery? = some d) : BestEffort m r job where
  title title acts n acts' n' hp hp' heq := hp.sameText hm hd hp' heq
  title_goes_on title acts n x y hp := by
    obtain ⟨acts', n', w, hp', hsame, hprefix, hw, hstores, -⟩ :=
      (hm.alike_withTitle title).exists_paths (Alike.paired _ r)
        (fun _ _ _ _ => Alike.stored_left) (fun _ _ _ _ => Alike.stored_right)
        (hm.given (job.withTitle title)).view rfl hp x y
    exact ⟨acts', n', w.run, hp', hsame, hprefix, (view?_eq_some_iff.1 hw).1, hstores⟩
  title_anywhere o hs title acts n outcome m' r' acts' n' outcome' h h' := h.sameText h' hd hs
  broken rule e hrule acts n hp :=
    hm.sameRun (fun page => (nextLinks_of_broken hrule job.source.rules page).symm) hp
  absent rule e hrule acts n hp := hm.sameRun (nextLinks_of_broken hrule job.source.rules) hp
  text := extract_text

/-- The short chapter, which is stored under a new title, comes to the same text without its rule for
the title. -/
theorem Machine.bestEffort_short : ∃ acts n acts' n' run run',
    (ofJobs (.ofSize 1) [Job.short]).Path acts n ∧
      ((ofJobs (.ofSize 1) [Job.short]).given 0 (Job.short.withTitle none)).Path acts' n' ∧
      n.runs[0]? = some run ∧ run.stage = .ended (.ok "\u3000\u3000x") ∧
      n'.runs[0]? = some run' ∧ run'.stage = .ended (.ok "\u3000\u3000x") ∧
      BestEffort (ofJobs (.ofSize 1) [Job.short]) 0 Job.short := by
  have hm : (ofJobs (.ofSize 1) [Job.short]).Fresh 0 Job.short := fresh_ofJobs rfl _
  have hbegin : Move 0 ⟨{ job := Job.short }, false, [], []⟩ (.begin 0) ⟨_, false, [], []⟩ :=
    .begin rfl
  rw [Run.begun_short] at hbegin
  obtain ⟨_, h1, v1⟩ := Path.nil.move hm.view hbegin rfl (by simp)
  obtain ⟨_, h2, v2⟩ := h1.move v1 (.deliver rfl rfl) rfl (by simp)
  obtain ⟨_, h3, v3⟩ := h2.move v2 (.update rfl rfl) rfl (by simp)
  obtain ⟨n, h4, v4⟩ := h3.move v3 (.finish (.inr rfl)) rfl (by simp)
  have h := Machine.Fresh.bestEffort hm (d := ⟨{}, {}, true⟩) rfl
  obtain ⟨acts', n', run', hp', hsame, hanswers, hr', hstores⟩ :=
    h.title_goes_on none _ n (.ok ()) (.ok ()) h4
  obtain ⟨run, run'', hr, hr'', htext⟩ := h.title none _ n acts' n' h4 hp' hsame
  obtain rfl := Option.some.inj (hr'.symm.trans hr'')
  have hrun := Option.some.inj (hr.symm.trans (view?_eq_some_iff.1 v4).1)
  have hended : run.stage = .ended (.ok "\u3000\u3000x") := by
    rw [hrun]
    rfl
  obtain ⟨outcome, hended'⟩ := (htext.ended (by rw [hended]; rfl) hstores).1 ⟨_, hended⟩
  -- nothing is refused to either run
  rcases htext.outcome _ _ hended hended' with rfl | ⟨e, -, ho⟩ | ⟨e, he, -⟩
  · exact ⟨_, n, acts', n', run, run', h4, hp', hr, hended, hr', hended', h⟩
  · cases ho
  · have hmem := hanswers.subset he
    simp at hmem

/-! ### A short chapter without its title -/

/-- A run of the short job without its rule for the title, from its first page on. -/
theorem Run.begun_untitled : Run.begun { job := Job.short.withTitle none } false =
    { job := Job.short.withTitle none
      stage := .assembled (.ofFirst "\u3000\u3000x") } := by
  have hfirst : (Job.short.withTitle none).firstPage = .ok { text := "\u3000\u3000x" } :=
    (Job.firstPage_withRules (RuleSet.readsAs_title _ _)).trans Job.firstPage_short
  rw [begun_of_firstPage rfl hfirst]
  rfl

/-- A world whose storage saves texts, but does not bring the table of contents up to date. -/
def Outside.unchanging : Outside where
  fetch _ := .ok Job.short.first
  storage calls := if calls.any Call.isUpdate then .error (.noHost []) else .ok ()

/-- **The storage can make a difference**: the short chapter has a new title, of which the storage
does not want to know, and fails by that; without its rule for the title it comes to its text. -/
theorem Machine.refused_for_title : ∃ acts n acts' n',
    (ofJobs (.ofSize 1) [Job.short]).ComesTo .unchanging Job.short 0 acts n
        (.error (.storage (.noHost []))) ∧
      (ofJobs (.ofSize 1) [Job.short.withTitle none]).ComesTo .unchanging
        (Job.short.withTitle none) 0 acts' n' (.ok "\u3000\u3000x") := by
  have hm : (ofJobs (.ofSize 1) [Job.short]).Fresh 0 Job.short := fresh_ofJobs rfl _
  have hm' : (ofJobs (.ofSize 1) [Job.short.withTitle none]).Fresh 0 (Job.short.withTitle none) :=
    fresh_ofJobs rfl _
  have h0 : Served .unchanging Job.short _ 0 [] _ ⟨{ job := Job.short }, false, [], []⟩ :=
    ⟨.nil, Outside.serves_nil, hm.view, rfl, .inl rfl, rfl⟩
  have h0' : Served .unchanging (Job.short.withTitle none) _ 0 [] _
      ⟨{ job := Job.short.withTitle none }, false, [], []⟩ :=
    ⟨.nil, Outside.serves_nil, hm'.view, rfl, .inl rfl, rfl⟩
  have hbegin : Move 0 ⟨{ job := Job.short }, false, [], []⟩ (.begin 0) ⟨_, false, [], []⟩ :=
    .begin rfl
  have hbegin' : Move 0 ⟨{ job := Job.short.withTitle none }, false, [], []⟩ (.begin 0)
      ⟨_, false, [], []⟩ := .begin rfl
  rw [Run.begun_short] at hbegin
  rw [Run.begun_untitled] at hbegin'
  obtain ⟨_, h1, -⟩ := h0.move hbegin rfl rfl trivial (by simp)
  obtain ⟨_, h2, -⟩ := h1.move (.deliver rfl rfl) rfl rfl trivial (by simp)
  obtain ⟨_, h3, -⟩ := h2.move (.update rfl rfl) rfl rfl (fun _ => rfl) (by simp)
  obtain ⟨_, h4, -⟩ := h3.move (.refuse (e := .noHost []) rfl) rfl rfl (fun _ => rfl) (by simp)
  obtain ⟨_, h1', -⟩ := h0'.move hbegin' rfl rfl trivial (by simp)
  obtain ⟨_, h2', -⟩ := h1'.move (.deliver rfl rfl) rfl rfl trivial (by simp)
  obtain ⟨_, h3', -⟩ := h2'.move (.finish (.inl ⟨rfl, rfl⟩)) rfl rfl (fun _ => rfl) (by simp)
  exact ⟨_, _, _, _, h4.comesTo hm rfl, h3'.comesTo hm' rfl⟩

end Content

end ChapterAssembly
