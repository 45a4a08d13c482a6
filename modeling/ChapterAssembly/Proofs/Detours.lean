/-
**Walks and redirects.**

A page has two URLs, the one that is asked for and the one that it comes from in the end.  A walk
remembers where its first page came from, but of every other page only what it asked for.  So it
asks for no URL twice, and yet it can come to the same page again: a redirect that leads to a page
under another URL is a detour that it does not notice.

Main definitions:

* `Job.origin?` — the URL that a request of the walk comes from, written as the links are;
* `readUrls` — the requests that have brought the pages of a walk;
* `origins` — where the pages of a walk come from, the first page included;
* `Detours` — what is promised of them.

Main results:

* `Chain.nodup_origins_iff` — **a page is read twice only by way of a redirect** on one of the
  pages after the first;
* `Machine.Path.repeats_by_detour` — the same of every walk, whatever the other runs do;
* `Machine.comes_back` — a walk that reads a page, and then the same page once more.
-/

import ChapterAssembly.Proofs.Ending

set_option relaxedAutoImplicit false
set_option autoImplicit false

namespace ChapterAssembly

namespace Content

/-! ### Where pages come from -/

section

variable (job : Job) (fetch : Text → Except FetchError FetchedPage) (us : List Text)
  (pages : List Extracted)

/-- The URL that the page behind a request comes from, written as the links of the chapter are. -/
def Job.origin? (url : Text) : Option Text :=
  match fetch url with
  | .ok page => some (job.resolve page.finalUrl)
  | .error _ => none

/-- The requests that have brought the pages of a walk: there is one page more, the first. -/
def readUrls : List Text := us.take (pages.length - 1)

/-- **Where the pages of a walk come from**, the first page of the chapter included. -/
def origins : List (Option Text) :=
  some job.home :: (readUrls us pages).map (job.origin? fetch)

end

variable {job : Job} {fetch : Text → Except FetchError FetchedPage} {first : Extracted}
  {us : List Text} {pages : List Extracted}

theorem Job.exists_origin_of_pageAt {url : Text} {page : Extracted}
    (h : job.pageAt fetch url = .ok page) : ∃ origin, job.origin? fetch url = some origin := by
  obtain ⟨found, hfound, -⟩ := mem_brings_of_pageAt h
  exact ⟨job.resolve found.finalUrl, by rw [Job.origin?, hfound]⟩

namespace Chain

theorem nodup_readUrls (h : Chain job fetch first us pages) :
    (job.home :: readUrls us pages).Nodup :=
  h.nodup.sublist (.cons_cons _ (List.take_sublist _ us))

/-- Each page of a walk comes from somewhere. -/
theorem isSome_of_mem_origins (h : Chain job fetch first us pages) {origin : Option Text}
    (ho : origin ∈ origins job fetch us pages) : origin.isSome = true := by
  rcases List.mem_cons.1 ho with rfl | ho
  · rfl
  · obtain ⟨url, hurl, rfl⟩ := List.mem_map.1 ho
    obtain ⟨k, hk⟩ := List.mem_iff_getElem?.1 hurl
    -- the request has brought the page after it
    have hlt : k < pages.length - 1 := by
      have := (List.getElem?_eq_some_iff.1 hk).1
      rw [readUrls, List.length_take] at this
      omega
    rw [readUrls, List.getElem?_take_of_lt hlt] at hk
    have hpage : pages[k + 1]? = some pages[k + 1] := List.getElem?_eq_getElem (by omega)
    obtain ⟨origin, horigin⟩ := Job.exists_origin_of_pageAt (h.read k url _ hk hpage)
    rw [horigin]
    rfl

/-- **A page is read twice only by way of a redirect**: the pages of a walk come from different
URLs exactly if no redirect on a page after the first leads to the first page, or to where another
page of the walk comes from. -/
theorem nodup_origins_iff (h : Chain job fetch first us pages) :
    (origins job fetch us pages).Nodup ↔
      ∀ u ∈ readUrls us pages, job.origin? fetch u ≠ some u →
        job.origin? fetch u ≠ some job.home ∧
          ∀ v ∈ readUrls us pages, job.origin? fetch v = job.origin? fetch u → v = u := by
  obtain ⟨hhome, hnodup⟩ := List.nodup_cons.1 h.nodup_readUrls
  rw [origins, List.nodup_cons, List.nodup_map_iff_inj_on hnodup, List.mem_map]
  constructor
  case mp =>
    rintro ⟨hfirst, hinj⟩ u hu -
    exact ⟨fun heq => hfirst ⟨u, hu, heq⟩, fun v hv => hinj v hv u hu⟩
  case mpr =>
    intro hdetour
    refine ⟨?_, ?_⟩
    · -- a page that is not redirected was asked for, so it is not the first one
      rintro ⟨u, hu, heq⟩
      by_cases hstraight : job.origin? fetch u = some u
      · obtain rfl : u = job.home := Option.some.inj (hstraight.symm.trans heq)
        exact hhome hu
      · exact (hdetour u hu hstraight).1 heq
    · intro u hu v hv heq
      by_cases hu' : job.origin? fetch u = some u
      · by_cases hv' : job.origin? fetch v = some v
        · exact Option.some.inj (hu'.symm.trans (heq.trans hv'))
        · exact (hdetour v hv hv').2 u hu heq
      · exact ((hdetour u hu hu').2 v hv heq.symm).symm

end Chain

/-! ### Every run -/

/-- **What is promised of where the pages of a walk come from.** -/
structure Detours (job : Job) (fetch : Text → Except FetchError FetchedPage) (us : List Text)
    (pages : List Extracted) : Prop where
  /-- No URL is asked for twice, nor that of the first page again. -/
  asked : (job.home :: us).Nodup
  known : ∀ origin ∈ origins job fetch us pages, origin.isSome = true
  /-- A page is read twice only by way of a redirect on a page after the first. -/
  nodup_iff : (origins job fetch us pages).Nodup ↔
    ∀ u ∈ readUrls us pages, job.origin? fetch u ≠ some u →
      job.origin? fetch u ≠ some job.home ∧
        ∀ v ∈ readUrls us pages, job.origin? fetch v = job.origin? fetch u → v = u

theorem Chain.detours (h : Chain job fetch first us pages) : Detours job fetch us pages where
  asked := h.nodup
  known _ := h.isSome_of_mem_origins
  nodup_iff := h.nodup_origins_iff

namespace Machine

variable {r : Nat} {m n : Machine} {acts : List Action} {candidate : Text}

/-- A walk of a run that is not cancelled has a chain. -/
theorem Path.exists_walks (hm : m.Fresh r job) (hfirst : job.firstPage = .ok first)
    (hnext : first.next = [candidate]) (hfetch : m.FetchesBy r acts fetch) (hp : m.Path acts n)
    (htoken : job.token ∉ n.fired) :
    ∃ run us pages, n.runs[r]? = some run ∧
      n.requestsOf r = us.map (fun u => (none, ⟨u, job.source.headers⟩)) ∧
      Walks job fetch first run.stage us pages := by
  have hstart : View.OnTrail ⟨{ job }, m.isCancelled { job }, [], []⟩ job fetch first [] :=
    ⟨rfl, rfl, .fresh, rfl⟩
  obtain ⟨v, hv, hjob, hi⟩ := hp.view_induction
    (I := fun _ v => v.run.job = job ∧ v.Chained job fetch first) hm.view
    ⟨rfl, hstart.chained⟩ fun _ k a v _ ht hv hi hmove =>
      ⟨hmove.job.trans hi.1, hmove.chained hi.2 hfirst hnext fun w url reply fires =>
        hfetch k a v w url reply fires ht hv⟩
  obtain ⟨hr, hc, hq, -⟩ := view?_eq_some_iff.1 hv
  have hactive : v.cancelled = false := by
    rw [← hc, isCancelled, hjob]
    simpa using htoken
  obtain ⟨us, -, -, htrail, hus⟩ := hi.trail hactive
  obtain ⟨pages, hw⟩ := htrail.exists_walks
  exact ⟨v.run, us, pages, hr, hq.trans hus, hw⟩

/-- **A walk comes to a page twice only by way of a redirect** that it takes after its first page,
whatever the other runs do. -/
theorem Path.repeats_by_detour (hm : m.Fresh r job) (hfirst : job.firstPage = .ok first)
    (hnext : first.next = [candidate]) (hfetch : m.FetchesBy r acts fetch) (hp : m.Path acts n)
    (htoken : job.token ∉ n.fired) :
    ∃ run us pages, n.runs[r]? = some run ∧
      n.requestsOf r = us.map (fun u => (none, ⟨u, job.source.headers⟩)) ∧
      Walks job fetch first run.stage us pages ∧ Detours job fetch us pages := by
  obtain ⟨run, us, pages, hr, hq, hw⟩ := hp.exists_walks hm hfirst hnext hfetch htoken
  exact ⟨run, us, pages, hr, hq, hw, hw.chain.detours⟩

/-- A walk that is not cancelled can exchange its request for what the URL brings. -/
theorem Path.exchange {run : Run} {requests : List (Option Nat × FetchTarget)}
    {calls : List Call} {w : Walk} {url : Text}
    (hp : m.Path acts n) (hfetch : m.FetchesBy r acts fetch)
    (hv : n.view? r = some ⟨run, false, requests, calls⟩) (hs : run.stage = .asking w url) :
    ∃ acts' k, m.Path acts' k ∧ m.FetchesBy r acts' fetch ∧
      k.view? r = some ⟨run.walked false w (readReply run.job.source.rules true url (fetch url)),
        false, requests ++ [(none, run.target url)], calls⟩ := by
  have hmove : Move r ⟨run, false, requests, calls⟩ (.exchange r (fetch url) false) _ :=
    .exchange hs rfl
  obtain ⟨k, hk, hv'⟩ := hp.move hv hmove rfl (by simp)
  refine ⟨_, k, hk, hfetch.snoc hp hv ?_, hv'⟩
  rintro w' url' reply fires (⟨h, hs'⟩ | ⟨h, -⟩)
  · rw [hs] at hs'
    cases h
    cases hs'
    rfl
  · cases h

end Machine

/-! ### A page that is reached by a detour -/

/-- Where the page stands that every URL leads to. -/
def detourUrl : Text := "x://h/v"

/-- That page: its text is a link to itself. -/
def detourPage (url : Text) : FetchedPage :=
  { requestedUrl := url, finalUrl := detourUrl, body := some ['v'] }

/-- What is found on it. -/
def detourFound : Extracted := { text := "\u3000\u3000v", next := [detourUrl] }

theorem Job.pageAt_detour (url : Text) :
    Job.looped.pageAt (fun u => .ok (detourPage u)) url = .ok detourFound :=
  show extracted Job.looped.source.rules true detourUrl ['v'] = .ok detourFound by
    decide +kernel

theorem Job.resolve_detour : Job.looped.resolve detourUrl = detourUrl := by decide +kernel

theorem Job.origin?_detour (url : Text) :
    Job.looped.origin? (fun u => .ok (detourPage u)) url = some detourUrl :=
  congrArg some Job.resolve_detour

/-- That page leads to itself, if it was not asked for before. -/
theorem Walk.Follows.target?_detour {w : Walk} {us : List Text} {pages : List Extracted}
    (h : w.Follows Job.looped us pages) :
    w.target? detourUrl = if detourUrl ∈ us then none else some detourUrl := by
  obtain ⟨-, hu, hz⟩ := Job.resolve_looped
  have hnext : Job.looped.nextChapter.map Job.looped.resolve = some ("x://h/z" : Text) :=
    congrArg some hz
  have hapart : detourUrl ≠ [] ∧ detourUrl ≠ "x://h/u" ∧
      some ("x://h/z" : Text) ≠ some detourUrl := by decide
  rw [h.target?_eq, Job.resolve_detour, hu, hnext]
  simp only [hapart, false_or, or_false]

/-- A walk that comes to that page reads it, and asks for it under its own URL or ends. -/
theorem Run.walked_detour (run : Run) {w : Walk} {us : List Text} {pages : List Extracted}
    (hjob : run.job = Job.looped) (hw : w.Follows Job.looped us pages) (url : Text) :
    (run.walked false w (readReply run.job.source.rules true url (.ok (detourPage url)))).stage =
      if detourUrl ∈ us then .assembled ⟨(pages ++ [detourFound]).map (·.text)⟩
      else .asking ((w.push detourFound.text).visit detourUrl) detourUrl := by
  have hread : readReply Job.looped.source.rules true url (.ok (detourPage url)) =
      .ok detourFound := Job.pageAt_detour url
  have hpush := hw.push detourFound
  have hnext : detourFound.next = [detourUrl] := rfl
  rw [hjob, hread]
  simp only [walked, Bool.false_eq_true, if_false, hnext, wentOn]
  rw [hpush.target?_detour]
  by_cases hasked : detourUrl ∈ us
  · rw [if_pos hasked, if_pos hasked]
    exact congrArg (fun texts => Stage.assembled ⟨texts⟩) hpush.pages
  · rw [if_neg hasked, if_neg hasked]

/-- The walk of a page that names `x://h/x`, which leads to `x://h/v`. -/
theorem Machine.path_detour : ∃ acts n run,
    (Machine.ofJobs (.ofSize 1) [Job.looped]).Path acts n ∧
      (Machine.ofJobs (.ofSize 1) [Job.looped]).FetchesBy 0 acts (fun u => .ok (detourPage u)) ∧
      Job.looped.token ∉ n.fired ∧ n.runs[0]? = some run ∧
      n.requestsOf 0 = [(none, ⟨linkUrl, []⟩), (none, ⟨detourUrl, []⟩)] ∧
      run.stage = .assembled ⟨[linkPage.found.text, detourFound.text, detourFound.text]⟩ := by
  have hm : (Machine.ofJobs (.ofSize 1) [Job.looped]).Fresh 0 Job.looped :=
    Machine.fresh_ofJobs rfl _
  obtain ⟨w, hbegun, hw⟩ := Run.begun_looped
  obtain ⟨k, h1, v1⟩ := Machine.Path.nil.move hm.view (.begin rfl) rfl (by simp)
  have f1 : (Machine.ofJobs (.ofSize 1) [Job.looped]).FetchesBy 0 [.begin 0]
      (fun u => .ok (detourPage u)) := Machine.FetchesBy.nil.snoc .nil hm.view (by simp)
  -- the page that the first one names is elsewhere, and names its own place
  obtain ⟨acts, k, h2, f2, v2⟩ := h1.exchange f1 v1 hbegun
  have hx := (Run.begun { job := Job.looped } false).walked_detour (by simp) hw linkUrl
  rw [if_neg (by decide : detourUrl ∉ [linkUrl])] at hx
  -- which was not asked for, and is there still
  obtain ⟨acts, n, h3, f3, v3⟩ := h2.exchange f2 v2 hx
  obtain ⟨hr, hc, hq, -⟩ := Machine.view?_eq_some_iff.1 v3
  refine ⟨acts, n, _, h3, f3, ?_, hr, ?_, ?_⟩
  · simpa [Machine.isCancelled] using hc
  · rw [hq]
    simp [Run.target]
    rfl
  · exact Run.walked_detour _ (by simp) ((hw.push detourFound).visit detourUrl) detourUrl

/-- A walk by a detour is promised to ask for no URL twice, and to know where its pages are. -/
theorem Machine.detours_looped : ∃ acts n run us pages,
    (Machine.ofJobs (.ofSize 1) [Job.looped]).Path acts n ∧ n.runs[0]? = some run ∧
      n.requestsOf 0 = [(none, ⟨linkUrl, []⟩), (none, ⟨detourUrl, []⟩)] ∧
      n.requestsOf 0 = us.map (fun u => (none, ⟨u, []⟩)) ∧
      Walks Job.looped (fun u => .ok (detourPage u)) linkPage.found run.stage us pages ∧
      Detours Job.looped (fun u => .ok (detourPage u)) us pages := by
  have hm : (Machine.ofJobs (.ofSize 1) [Job.looped]).Fresh 0 Job.looped :=
    Machine.fresh_ofJobs rfl _
  obtain ⟨acts, n, -, hp, hfetch, htoken, -, hq, -⟩ := Machine.path_detour
  obtain ⟨run, us, pages, hr, hus, hw, hd⟩ :=
    Machine.Path.repeats_by_detour hm Job.firstPage_looped rfl hfetch hp htoken
  exact ⟨acts, n, run, us, pages, hp, hr, hq, hus, hw, hd⟩

/-- **A walk comes back to a page that it has read**: the page at `x://h/v` is reached by a redirect
from `x://h/x`, then under its own URL, and its text is in the chapter twice. -/
theorem Machine.comes_back : ∃ acts n run us pages,
    (Machine.ofJobs (.ofSize 1) [Job.looped]).Path acts n ∧
      (Machine.ofJobs (.ofSize 1) [Job.looped]).FetchesBy 0 acts (fun u => .ok (detourPage u)) ∧
      Job.looped.token ∉ n.fired ∧ n.runs[0]? = some run ∧
      n.requestsOf 0 = us.map (fun u => (none, ⟨u, []⟩)) ∧
      run.stage = .assembled ⟨[linkPage.found.text, detourFound.text, detourFound.text]⟩ ∧
      Walks Job.looped (fun u => .ok (detourPage u)) linkPage.found run.stage us pages ∧
      origins Job.looped (fun u => .ok (detourPage u)) us pages =
        [some Job.looped.home, some detourUrl, some detourUrl] ∧
      ¬ (origins Job.looped (fun u => .ok (detourPage u)) us pages).Nodup := by
  have hm : (Machine.ofJobs (.ofSize 1) [Job.looped]).Fresh 0 Job.looped :=
    Machine.fresh_ofJobs rfl _
  obtain ⟨acts, n, run, hp, hfetch, htoken, hr, hq, hs⟩ := Machine.path_detour
  obtain ⟨run', us, pages, hr', hus, hw⟩ :=
    hp.exists_walks hm Job.firstPage_looped rfl hfetch htoken
  obtain rfl := Option.some.inj (hr.symm.trans hr')
  -- there are two requests, and a page more
  have htwo : us.length = 2 := by
    have := congrArg List.length (hus.symm.trans hq)
    simpa using this
  obtain ⟨-, hlen, -⟩ := hw.assembled _ hs
  have horigins : origins Job.looped (fun u => .ok (detourPage u)) us pages =
      [some Job.looped.home, some detourUrl, some detourUrl] := by
    obtain ⟨a, b, rfl⟩ := List.length_eq_two.1 htwo
    have hread : readUrls [a, b] pages = [a, b] := by
      rw [readUrls, hlen]
      rfl
    rw [origins, hread]
    simp only [List.map_cons, List.map_nil, Job.origin?_detour]
  refine ⟨acts, n, run, us, pages, hp, hfetch, htoken, hr, hus, hs, hw, horigins, ?_⟩
  rw [horigins]
  simp

end Content

end ChapterAssembly
