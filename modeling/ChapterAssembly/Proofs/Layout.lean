/-
**How the text of a chapter is laid out.**

The text that a run ends with is a text of paragraphs: what stands between two line feeds is either
nothing, or two ideographic spaces and a paragraph that neither starts nor ends with a blank
character.  This is so whatever the pages hold, whatever evaluator resolves the rules, and whether
there is a replace rule or not.

Main definitions:

* `Content.Paragraph`, `Content.LaidOut` — a paragraph, and a text of indented paragraphs;
* `Run.Tidy` — every text that a run has by now is laid out.

Main results:

* `Content.laidOut_indentParagraphs`, `Content.laidOut_indentLines` — both ways to lay out lines;
* `Content.laidOut_joinWith` — laid out texts on lines of their own are a laid out text;
* `Content.MoveBy.tidy` — **a move keeps a run tidy, whatever resolves its rules**;
* `Content.ended_laidOut` — the text that a run ends with is laid out.
-/

import ChapterAssembly.Proofs.Run.Resolver
import ChapterAssembly.Proofs.Run.Stage
import ChapterAssembly.Proofs.Text.Pieces

set_option relaxedAutoImplicit false
set_option autoImplicit false

namespace ChapterAssembly

namespace Content

/-! ### Laid out texts -/

/-- A paragraph: something that neither starts nor ends with a blank character. -/
structure Paragraph (t : Text) : Prop where
  ne_nil : t ≠ []
  head : ∀ c, t.head? = some c → Text.isBlank c = false
  last : ∀ c, t.getLast? = some c → Text.isBlank c = false

/-- Between two line feeds of a text stands nothing, or an indented paragraph. -/
def LaidOut (t : Text) : Prop :=
  ∀ piece ∈ Text.pieces t, piece = [] ∨ ∃ p, piece = indent ++ p ∧ Paragraph p

variable {t : Text}

theorem paragraph_trim (h : Text.trim t ≠ []) : Paragraph (Text.trim t) where
  ne_nil := h
  head _ := Text.isBlank_of_head?_trim
  last _ := Text.isBlank_of_getLast?_trim

theorem laidOut_nil : LaidOut [] := by
  intro piece hp
  exact .inl (by simpa [Text.pieces, Text.splitOnChar] using hp)

/-- What is trimmed of a line is laid out when it is indented, unless nothing is left. -/
theorem laidOut_indentLine (h : '\n' ∉ t) : LaidOut (indentLine (Text.trim t)) := by
  unfold indentLine
  split
  · exact laidOut_nil
  · next hne =>
      have hne : Text.trim t ≠ [] := by simpa using hne
      have hmem : '\n' ∉ indent ++ Text.trim t := by
        rw [List.mem_append, not_or]
        exact ⟨by decide, fun hc => h (Text.trim_subset t hc)⟩
      intro piece hp
      rw [Text.pieces, Text.splitOnChar_of_notMem hmem, List.mem_singleton] at hp
      exact .inr ⟨_, hp, paragraph_trim hne⟩

/-- **Laid out texts on lines of their own** are a laid out text. -/
theorem laidOut_joinWith {ts : List Text} (h : ∀ t ∈ ts, LaidOut t) :
    LaidOut (Text.joinWith ['\n'] ts) := by
  intro piece hp
  rcases Text.mem_splitOnChar_joinWith hp with rfl | ⟨t, ht, hp⟩
  · exact .inl rfl
  · exact h t ht piece hp

/-- **Lines that are trimmed and indented are laid out**, the blank ones as empty lines. -/
theorem laidOut_indentLines (t : Text) : LaidOut (indentLines t) := by
  refine laidOut_joinWith fun u hu => ?_
  obtain ⟨l, hl, rfl⟩ := List.mem_map.1 hu
  exact laidOut_indentLine (Text.notMem_of_mem_lines hl)

/-- **Lines that are trimmed and indented are laid out**, also without the blank ones. -/
theorem laidOut_indentParagraphs (t : Text) : LaidOut (indentParagraphs t) := by
  refine laidOut_joinWith fun u hu => ?_
  obtain ⟨p, hp, rfl⟩ := List.mem_map.1 hu
  obtain ⟨hp, hne⟩ := List.mem_filter.1 hp
  obtain ⟨l, hl, rfl⟩ := List.mem_map.1 hp
  have hline := laidOut_indentLine (Text.notMem_of_mem_lines hl)
  rwa [indentLine, if_neg (by simpa using hne)] at hline

/-! ### What evaluators find -/

/-- The texts of some pages are laid out. -/
def Pages.Tidy (p : Pages) : Prop := ∀ t ∈ p.texts, LaidOut t

theorem Pages.Tidy.push {p : Pages} (h : p.Tidy) (ht : LaidOut t) : (p.push t).Tidy := by
  intro u hu
  rcases List.mem_append.1 hu with hu | hu
  · exact h u hu
  · exact List.mem_singleton.1 hu ▸ ht

theorem Pages.tidy_ofFirst (ht : LaidOut t) : (Pages.ofFirst t).Tidy :=
  fun _ hu => List.mem_singleton.1 hu ▸ ht

namespace Resolver

variable {e : Resolver} {rules : RuleSet} {wantNext : Bool} {page : Extracted}

/-- The text of a page is laid out, whatever the evaluator finds there. -/
theorem laidOut_of_extracted {address body : Text}
    (h : e.extracted rules wantNext address body = .ok page) : LaidOut page.text := by
  cases hs : e.string rules.content ⟨body, Url.pageBase address⟩ with
  | error err => simp [extracted, extractText, hs, Except.map] at h
  | ok html =>
      simp only [extracted, extractText, hs, Except.map, Except.ok.injEq] at h
      subst h
      exact laidOut_indentParagraphs _

theorem laidOut_of_readReply {url : Text} {reply : Except FetchError FetchedPage}
    (h : e.readReply rules wantNext url reply = .ok page) : LaidOut page.text := by
  unfold readReply at h
  split at h
  · cases h
  · split at h
    · cases h
    · exact laidOut_of_extracted h

/-- **The final text is laid out**, with a replace rule and without. -/
theorem laidOut_of_finalText {pages : Pages} {replace : Option Text} {base : Url}
    (hp : pages.Tidy) (h : e.finalText pages replace base = .ok t) : LaidOut t := by
  unfold finalText at h
  split at h
  · obtain rfl := Except.ok.inj h
    exact laidOut_joinWith hp
  · split at h
    · obtain rfl := Except.ok.inj h
      exact laidOut_indentLines _
    · cases h

end Resolver

/-! ### Tidy runs -/

/-- Every text that a run has at some stage is laid out. -/
def Stage.Tidy : Stage → Prop
  | .asking w _ => w.pages.Tidy
  | .walking w _ => w.pages.Tidy
  | .spreading first texts => LaidOut first ∧ ∀ t, some t ∈ texts → LaidOut t
  | .gathered pages => pages.Tidy
  | .assembled pages => pages.Tidy
  | .saving s => LaidOut s.content
  | .updating s => LaidOut s.content
  | .ended (.ok t) => LaidOut t
  | _ => True

/-- **Every text that a run has by now**, or one of its tasks, is laid out. -/
structure Run.Tidy (run : Run) : Prop where
  stage : run.stage.Tidy
  tasks : ∀ task ∈ run.tasks, ∀ t, task.state = .ended (.ok t) → LaidOut t

variable {run : Run}

theorem Run.tidy_fresh (job : Job) : Run.Tidy { job } := ⟨trivial, by simp⟩

namespace Run.Tidy

theorem fail (h : run.Tidy) (e : ContentError) : (run.fail e).Tidy where
  stage := trivial
  tasks task ht t hs := by
    obtain ⟨u, hu, rfl⟩ := List.mem_map.1 ht
    exact h.tasks u hu t (TaskState.stop_eq_ended_iff.1 hs)

/-- A run whose tasks do not change. -/
theorem of_stage (h : run.Tidy) {run' : Run} (hs : run'.stage.Tidy)
    (ht : run'.tasks = run.tasks) : run'.Tidy := ⟨hs, ht ▸ h.tasks⟩

/-- A task that ends with a text ends with one that is laid out. -/
theorem setTask (h : run.Tidy) (i : Nat) {s : TaskState}
    (hs : ∀ t, s = .ended (.ok t) → LaidOut t) : (run.setTask i s).Tidy where
  stage := h.stage
  tasks task ht t he := by
    rcases Run.mem_setTask ht with ht | rfl
    · exact h.tasks task ht t he
    · exact hs t he

theorem endTask (h : run.Tidy) (i : Nat) {outcome : Except ContentError Text}
    (ho : ∀ t, outcome = .ok t → LaidOut t) : (run.endTask i outcome).Tidy :=
  (h.setTask i fun t he => ho t (by simpa using he)).of_stage h.stage rfl

theorem wentOn (h : run.Tidy) {w : Walk} (hw : w.pages.Tidy) (candidate : Text) :
    (run.wentOn w candidate).Tidy := by
  unfold Run.wentOn
  split <;> exact h.of_stage hw rfl

theorem walked (h : run.Tidy) (cancelled : Bool) {w : Walk} (hw : w.pages.Tidy)
    {found : Except ContentError Extracted}
    (hf : ∀ page, found = .ok page → LaidOut page.text) :
    (run.walked cancelled w found).Tidy := by
  cases found with
  | error e => exact h.fail e
  | ok page =>
      have hpush : (w.push page.text).pages.Tidy := hw.push (hf page rfl)
      simp only [Run.walked]
      split
      · exact h.fail _
      · split
        · exact h.wentOn hpush _
        · exact h.of_stage hpush rfl

theorem spread (h : run.Tidy) (ht : LaidOut t) (next : List Text) :
    (run.spread t next).Tidy := by
  unfold Run.spread
  split
  · exact h.of_stage (Pages.tidy_ofFirst ht) rfl
  · exact h.wentOn (Pages.tidy_ofFirst ht) _
  · exact ⟨⟨ht, by simp⟩, by simp⟩

theorem begun (h : run.Tidy) (e : Resolver) (cancelled : Bool) :
    (e.begun run cancelled).Tidy := by
  unfold Resolver.begun
  split
  · exact h.fail _
  · next body _ =>
      have htitled : Run.Tidy { run with title := e.titleOn run.job body } := ⟨h.stage, h.tasks⟩
      simp only
      split
      · exact htitled.fail _
      · next page hpage =>
          split
          · exact htitled.fail _
          · exact htitled.spread (Resolver.laidOut_of_extracted hpage) _

theorem collect (h : run.Tidy) (i : Nat) {texts : List (Option Text)}
    (hs : run.stage = .spreading t texts) : (run.collect i t texts).Tidy := by
  have hstage := h.stage
  rw [hs] at hstage
  unfold Run.collect
  split
  · next url text htask =>
      have htexts : ∀ u, some u ∈ texts.set i (some text) → LaidOut u := by
        intro u hu
        rcases List.mem_or_eq_of_mem_set hu with hu | hu
        · exact hstage.2 u hu
        · obtain rfl := Option.some.inj hu
          exact h.tasks _ (List.mem_of_getElem? htask) _ rfl
      refine h.of_stage ?_ rfl
      simp only
      split
      · -- the texts of all pages are there, after the one of the first page
        intro u hu
        rcases List.mem_cons.1 hu with rfl | hu
        · exact hstage.1
        · exact htexts u (by simpa using hu)
      · exact ⟨hstage.1, htexts⟩
  · exact h.fail _
  · exact h

theorem delivered (h : run.Tidy) (e : Resolver) (cancelled : Bool) (d : Delivery) {pages : Pages}
    (hp : pages.Tidy) : (e.delivered run cancelled d pages).Tidy := by
  unfold Resolver.delivered
  split
  · exact h.fail _
  · next content hcontent =>
      have hlaid := Resolver.laidOut_of_finalText hp hcontent
      split
      · exact h.fail _
      · split
        · exact h.fail _
        · split <;> exact h.of_stage hlaid rfl

end Run.Tidy

/-! ### What every run ends with -/

variable {r : Nat} {v v' : View} {a : Action} {job : Job}

/-- A move in which no rule is resolved keeps a run tidy. -/
theorem Move.tidy (h : Move r v a v') (ha : a.resolves r = false) (ht : v.run.Tidy) :
    v'.run.Tidy := by
  have hstage := ht.stage
  cases h with
  | other => exact ht
  | notice | abandon | refuse => exact ht.fail _
  | request hs | gather hs | update hs =>
      rw [hs] at hstage
      exact ht.of_stage hstage rfl
  | queue | launch | drop => exact ht.setTask _ (by simp)
  | die => exact ht.endTask _ (by simp)
  | collect hs => exact ht.collect _ hs
  | finish hs =>
      rcases hs with ⟨hs, -⟩ | hs <;> rw [hs] at hstage <;> exact ht.of_stage hstage rfl
  | begin | exchange | reply | answer | deliver => simp [Action.resolves] at ha

/-- **A move keeps a run tidy, whatever resolves its rules.** -/
theorem MoveBy.tidy {e : Resolver} (h : MoveBy e r v a v') (ht : v.run.Tidy) : v'.run.Tidy := by
  have hstage := ht.stage
  cases h with
  | plain h ha => exact h.tidy ha ht
  | begin => exact ht.begun e _
  | exchange hs =>
      rw [hs] at hstage
      exact ht.walked _ hstage fun _ => Resolver.laidOut_of_readReply
  | reply hs =>
      rw [hs] at hstage
      exact ht.walked _ hstage fun _ => Resolver.laidOut_of_readReply
  | @answer i url reply fires _ =>
      refine ht.endTask i fun t he => ?_
      cases hr : e.readReply v.run.job.source.rules false url reply with
      | error err => simp [hr, Except.map] at he
      | ok page =>
          obtain rfl : page.text = t := by simpa [hr, Except.map] using he
          exact Resolver.laidOut_of_readReply hr
  | deliver hs =>
      rw [hs] at hstage
      exact ht.delivered e _ _ hstage

theorem Job.LeadsTo.tidy (h : job.LeadsTo r v) : v.run.Tidy := by
  induction h with
  | fresh => exact Run.tidy_fresh job
  | move e _ hm ih => exact hm.tidy ih

/-- **The text that a run ends with is laid out**, whatever evaluator resolves its rules at each of
its moves; and so it is for every run of a machine. -/
theorem ended_laidOut :
    (∀ r job (v : View) t, Job.LeadsTo r job v → v.run.stage = .ended (.ok t) → LaidOut t) ∧
    ∀ (m n : Machine) r job acts run t, m.Fresh r job → m.Path acts n →
      n.runs[r]? = some run → run.stage = .ended (.ok t) → LaidOut t := by
  have hended : ∀ r job (v : View) t, Job.LeadsTo r job v → v.run.stage = .ended (.ok t) →
      LaidOut t := by
    intro r job v t h hs
    have hstage := h.tidy.stage
    rwa [hs] at hstage
  refine ⟨hended, fun m n r job acts run t hm hp hr hs => ?_⟩
  obtain ⟨v, hv, hlead⟩ := hp.leadsTo hm
  obtain rfl := Option.some.inj (hr.symm.trans (Machine.view?_eq_some_iff.1 hv).1)
  exact hended r job v t hlead hs

/-- A job whose text is what a replace rule makes of its only page. -/
def Job.rewritten : Job where
  source := { rules := { content := ['c'], replace := some ['r'] } }
  first := { requestedUrl := [], finalUrl := [], body := some [] }
  delivery? := some { book := {}, chapter := {}, persist := false }

/-- An evaluator that finds the same text by every rule, and no links. -/
def Resolver.constant (t : Text) : Resolver where
  string _ _ := .ok t
  links _ _ := .ok []

/-- Some actions lead to the end of the short job. -/
theorem Machine.exists_ended_short : ∃ acts n run,
    (Machine.ofJobs (.ofSize 1) [Job.short]).Path acts n ∧ n.runs[0]? = some run ∧
      run.stage = .ended (.ok "\u3000\u3000x") := by
  have hm : (Machine.ofJobs (.ofSize 1) [Job.short]).Fresh 0 Job.short := Machine.fresh_ofJobs rfl _
  have hbegin : Move 0 ⟨{ job := Job.short }, false, [], []⟩ (.begin 0) ⟨_, false, [], []⟩ :=
    .begin rfl
  rw [Run.begun_short] at hbegin
  obtain ⟨_, h1, v1⟩ := Machine.Path.nil.move hm.view hbegin rfl (by simp)
  obtain ⟨_, h2, v2⟩ := h1.move v1 (.deliver rfl rfl) rfl (by simp)
  obtain ⟨_, h3, v3⟩ := h2.move v2 (.update rfl rfl) rfl (by simp)
  obtain ⟨n, h4, v4⟩ := h3.move v3 (.finish (.inr rfl)) rfl (by simp)
  exact ⟨_, n, _, h4, (Machine.view?_eq_some_iff.1 v4).1, rfl⟩

/-- A replace rule that makes a carriage return, a blank line and blanks of everything leaves two
paragraphs with an empty line between them; and a short chapter is one paragraph. -/
theorem ended_laidOut_rewritten :
    (∃ v, Job.rewritten.LeadsTo 0 v ∧
      v.run.stage = .ended (.ok "\u3000\u3000x\n\n\u3000\u3000y") ∧
      LaidOut "\u3000\u3000x\n\n\u3000\u3000y") ∧
    ∃ acts n run, (Machine.ofJobs (.ofSize 1) [Job.short]).Path acts n ∧ n.runs[0]? = some run ∧
      run.stage = .ended (.ok "\u3000\u3000x") ∧ LaidOut "\u3000\u3000x" := by
  refine ⟨?_, ?_⟩
  · have h1 : Job.rewritten.LeadsTo 0 _ := .fresh false
    have h2 := h1.move (.constant "x\r\n \ny ") (.begin rfl)
    have h3 := h2.move (.constant "x\r\n \ny ") (.deliver rfl rfl)
    exact ⟨_, h3, rfl, ended_laidOut.1 _ _ _ _ h3 rfl⟩
  · obtain ⟨acts, n, run, hp, hr, hs⟩ := Machine.exists_ended_short
    exact ⟨acts, n, run, hp, hr, hs,
      ended_laidOut.2 _ n 0 Job.short acts run _ (Machine.fresh_ofJobs rfl _) hp hr hs⟩

end Content

end ChapterAssembly
