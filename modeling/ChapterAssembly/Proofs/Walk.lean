/-
**Walks from page to page.**

A chapter whose first page names exactly one further page is read by a walk: every page that the
run requests is the one that the page before it names.  What such a walk leaves behind is a
*chain*, a list of requested URLs beside a list of pages read, and each step of the run makes the
one or the other longer.

Main definitions:

* `Job.home`, `Job.resolve` — the URL of the first page, and that of a link;
* `Chain` — the requests of a walk and the pages it has read;
* `Chain.GoesTo`, `Chain.Maximal` — where a walk goes next, and that it goes no further;
* `Trail` — the stages of a walk, with its chain;
* `Walks` — what is promised of a walk;
* `Machine.FetchesBy` — the replies to a run are a function of the URL.

Main results:

* `Walk.Follows.target?_eq` — where the working walk goes is where its chain goes;
* `Move.onTrail` — every move of a run lengthens its chain, or leaves it;
* `Machine.Path.walks` — **the requests and pages of a walk are a maximal chain**.
-/

import ChapterAssembly.Proofs.Run.Stage

set_option relaxedAutoImplicit false
set_option autoImplicit false

namespace ChapterAssembly

namespace Content

/-! ### Chains -/

/-- A link of the chapter, made absolute against the first page. -/
def Job.resolve (job : Job) (link : Text) : Text :=
  Url.absolute (Url.pageBase job.first.finalUrl) link

/-- The URL of the first page, written as the links are. -/
def Job.home (job : Job) : Text := job.resolve job.first.finalUrl

section

variable (job : Job) (fetch : Text → Except FetchError FetchedPage) (first : Extracted)

/-- What the run finds on the page that a URL brings. -/
def Job.pageAt (url : Text) : Except ContentError Extracted :=
  readReply job.source.rules true url (fetch url)

/-- **The requests of a walk, and the pages it has read**, the first page of the chapter included:
each request is for the only page that the page before it names. -/
structure Chain (us : List Text) (pages : List Extracted) : Prop where
  first : pages.head? = some first
  link : ∀ (k : Nat) (u : Text), us[k]? = some u →
    ∃ page candidate, pages[k]? = some page ∧ page.next = [candidate] ∧ u = job.resolve candidate
  read : ∀ (k : Nat) (u : Text) (page : Extracted), us[k]? = some u → pages[k + 1]? = some page →
    job.pageAt fetch u = .ok page
  /-- No page is requested twice, nor the first page again. -/
  nodup : (job.home :: us).Nodup
  nonempty : [] ∉ us
  /-- The walk does not go into the next chapter. -/
  apart : ∀ next, job.nextChapter = some next → job.resolve next ∉ us

/-- A walk with these requests and pages goes on to a URL. -/
def Chain.GoesTo (us : List Text) (pages : List Extracted) (url : Text) : Prop :=
  (∃ page candidate, pages.getLast? = some page ∧ page.next = [candidate] ∧
    url = job.resolve candidate) ∧
  url ≠ [] ∧ url ≠ job.home ∧ url ∉ us ∧ job.nextChapter.map job.resolve ≠ some url

/-- A walk with these requests and pages goes no further: its last page names none or several, or
one without a URL, or one that was visited, or the next chapter. -/
def Chain.Maximal (us : List Text) (pages : List Extracted) : Prop :=
  ∀ page, pages.getLast? = some page → ∀ candidate, page.next = [candidate] →
    job.resolve candidate = [] ∨ job.resolve candidate = job.home ∨
      job.resolve candidate ∈ us ∨ job.nextChapter.map job.resolve = some (job.resolve candidate)

end

variable {job : Job} {fetch : Text → Except FetchError FetchedPage} {first : Extracted}
  {us : List Text} {pages : List Extracted} {url : Text}

namespace Chain

theorem single : Chain job fetch first [] [first] where
  first := rfl
  link := by simp
  read := by simp
  nodup := by simp
  nonempty := by simp
  apart := by simp

/-- The walk requests the page that it goes to. -/
theorem request (h : Chain job fetch first us pages) (hl : pages.length = us.length + 1)
    (hg : GoesTo job us pages url) : Chain job fetch first (us ++ [url]) pages := by
  obtain ⟨⟨page, candidate, hlast, hnext, hurl⟩, hne, hhome, hnew, hapart⟩ := hg
  constructor
  case first => exact h.first
  case link =>
    intro k u hu
    rcases Nat.lt_or_ge k us.length with hk | hk
    · exact h.link k u (by rwa [List.getElem?_append_left hk] at hu)
    · -- the new request is for the page that the last page names
      obtain ⟨rfl, rfl⟩ : k = us.length ∧ url = u := by
        rw [List.getElem?_append_right hk] at hu
        rcases hk' : k - us.length with _ | i
        · exact ⟨by omega, by simpa [hk'] using hu⟩
        · simp [hk'] at hu
      refine ⟨page, candidate, ?_, hnext, hurl⟩
      rw [← hlast, List.getLast?_eq_getElem?, hl, Nat.add_sub_cancel]
  case read =>
    intro k u p hu hp
    refine h.read k u p ?_ hp
    have hk : k + 1 < pages.length := (List.getElem?_eq_some_iff.1 hp).1
    rwa [List.getElem?_append_left (by omega)] at hu
  case nodup =>
    rw [← List.cons_append, List.nodup_append]
    refine ⟨h.nodup, by simp, ?_⟩
    rintro u hu _ hurl' rfl
    obtain rfl : u = url := by simpa using hurl'
    rcases List.mem_cons.1 hu with rfl | hu
    · exact hhome rfl
    · exact hnew hu
  case nonempty => simp [h.nonempty, Ne.symm hne]
  case apart =>
    intro next hnext'
    have := h.apart next hnext'
    simp_all

/-- The walk reads the page that it has requested last. -/
theorem page (h : Chain job fetch first (us ++ [url]) pages) (hl : pages.length = us.length + 1)
    {found : Extracted} (hr : job.pageAt fetch url = .ok found) :
    Chain job fetch first (us ++ [url]) (pages ++ [found]) := by
  have hlt : ∀ {k u}, (us ++ [url])[k]? = some u → k < pages.length := by
    intro k u hu
    simpa [hl] using (List.getElem?_eq_some_iff.1 hu).1
  constructor
  case first => rw [List.head?_append, h.first]; rfl
  case link =>
    intro k u hu
    rw [List.getElem?_append_left (hlt hu)]
    exact h.link k u hu
  case read =>
    intro k u p hu hp
    rcases Nat.lt_or_ge (k + 1) pages.length with hk | hk
    · exact h.read k u p hu (by rwa [List.getElem?_append_left hk] at hp)
    · -- the new page is what the last request brings
      have hlt := hlt hu
      obtain rfl : k = us.length := by omega
      obtain rfl : url = u := by simpa using hu
      have hlen : us.length + 1 = pages.length := hl.symm
      obtain rfl : found = p := by simpa [hlen] using hp
      exact hr
  all_goals first | exact h.nodup | exact h.nonempty | exact h.apart

end Chain

/-! ### The working walk -/

/-- A working walk that has come to some URLs and read some pages. -/
structure Walk.Follows (w : Walk) (job : Job) (us : List Text) (pages : List Extracted) : Prop where
  base : w.base = Url.pageBase job.first.finalUrl
  nextChapter : w.nextChapter = (job.nextChapter.map job.resolve).filter fun u => !u.isEmpty
  visited : ∀ u, u ∈ w.visited.urls ↔ u = job.home ∨ u ∈ us
  pages : w.pages.texts = pages.map (·.text)

namespace Walk.Follows

variable {w : Walk}

theorem start (job : Job) (page : Extracted) :
    Follows (.start (Url.pageBase job.first.finalUrl) job.first.finalUrl job.nextChapter page.text)
      job [] [page] where
  base := rfl
  nextChapter := rfl
  visited := by simp [Walk.start, Visited.ofFirst, Job.home, Job.resolve]
  pages := rfl

theorem visit (h : w.Follows job us pages) (url : Text) :
    (w.visit url).Follows job (us ++ [url]) pages where
  base := h.base
  nextChapter := h.nextChapter
  visited := by
    intro u
    simp only [Walk.visit, Visited.mem_urls_insert, h.visited u, List.mem_append,
      List.mem_singleton]
    rw [or_comm, or_assoc]
  pages := h.pages

theorem push (h : w.Follows job us pages) (page : Extracted) :
    (w.push page.text).Follows job us (pages ++ [page]) where
  base := h.base
  nextChapter := h.nextChapter
  visited := h.visited
  pages := by simp [Walk.push, Pages.push, h.pages]

/-- Where a walk goes, and that it ends otherwise. -/
theorem target?_eq (h : w.Follows job us pages) (candidate : Text) :
    w.target? candidate =
      if job.resolve candidate = [] ∨ job.resolve candidate = job.home ∨
          job.resolve candidate ∈ us ∨
          job.nextChapter.map job.resolve = some (job.resolve candidate) then none
      else some (job.resolve candidate) := by
  have hurl : Url.absolute w.base candidate = job.resolve candidate := by rw [h.base]; rfl
  have hvisited : w.visited.contains (job.resolve candidate) = true ↔
      job.resolve candidate = job.home ∨ job.resolve candidate ∈ us := by
    rw [Visited.contains, List.contains_iff_mem, h.visited]
  simp only [target?, hurl, h.nextChapter]
  -- an empty URL of the next chapter is no obstacle, but the walk goes to no empty URL
  by_cases hempty : job.resolve candidate = []
  · simp [hempty]
  · have hnext : ((job.nextChapter.map job.resolve).filter (fun u => !u.isEmpty) ==
          some (job.resolve candidate)) = true ↔
        job.nextChapter.map job.resolve = some (job.resolve candidate) := by
      rw [beq_iff_eq, Option.filter_eq_some_iff]
      simp [hempty]
    simp only [Bool.or_eq_true, hvisited, hnext, List.isEmpty_iff, or_assoc]

end Walk.Follows

/-! ### Trails -/

/-- **How far a walk has come**: the stage of its run, and the URLs that it has requested.  Once a
run has its pages, what becomes of them does not concern the walk. -/
inductive Trail (job : Job) (fetch : Text → Except FetchError FetchedPage) (first : Extracted) :
    Stage → List Text → Prop
  | fresh : Trail job fetch first .fresh []
  | asking {w : Walk} {url : Text} {us : List Text} {pages : List Extracted}
      (hc : Chain job fetch first us pages) (hl : pages.length = us.length + 1)
      (hg : Chain.GoesTo job us pages url) (hw : w.Follows job (us ++ [url]) pages) :
      Trail job fetch first (.asking w url) us
  | walking {w : Walk} {url : Text} {us : List Text} {pages : List Extracted}
      (hc : Chain job fetch first (us ++ [url]) pages) (hl : pages.length = us.length + 1)
      (hw : w.Follows job (us ++ [url]) pages) :
      Trail job fetch first (.walking w url) (us ++ [url])
  | assembled {p : Pages} {us : List Text} {pages : List Extracted}
      (hc : Chain job fetch first us pages) (hl : pages.length = us.length + 1)
      (hm : Chain.Maximal job us pages) (hp : p.texts = pages.map (·.text)) :
      Trail job fetch first (.assembled p) us
  | failed {e : ContentError} {url : Text} {us : List Text} {pages : List Extracted}
      (hc : Chain job fetch first (us ++ [url]) pages) (hl : pages.length = us.length + 1)
      (he : job.pageAt fetch url = .error e) :
      Trail job fetch first (.ended (.error e)) (us ++ [url])
  | delivered {stage : Stage} {us : List Text} {pages : List Extracted}
      (hs : stage.stores = true ∨ ∃ outcome, stage = .ended outcome)
      (hd : job.delivery?.isSome = true) (hc : Chain job fetch first us pages) :
      Trail job fetch first stage us

namespace Trail

/-- A walk that has read a page which names one further page goes on to that, or ends. -/
theorem wentOn {run : Run} {w : Walk} {page : Extracted} {candidate : Text}
    (hc : Chain job fetch first us pages) (hl : pages.length = us.length + 1)
    (hw : w.Follows job us pages) (hlast : pages.getLast? = some page)
    (hnext : page.next = [candidate]) :
    Trail job fetch first (run.wentOn w candidate).stage us := by
  rw [Run.wentOn, hw.target?_eq candidate]
  split
  · next hends =>
      split at hends
      · next hstop =>
          refine .assembled hc hl ?_ hw.pages
          intro page' hlast' candidate' hnext'
          obtain rfl : page = page' := by simpa [hlast] using hlast'
          obtain rfl : candidate = candidate' := by simpa [hnext] using hnext'
          exact hstop
      · cases hends
  · next url hgoes =>
      split at hgoes
      · cases hgoes
      · next hgo =>
          obtain rfl : job.resolve candidate = url := by simpa using hgoes
          simp only [not_or] at hgo
          exact .asking hc hl ⟨⟨page, candidate, hlast, hnext, rfl⟩, hgo⟩ (hw.visit _)

/-- A walk that has come to a page reads it and goes on, or fails. -/
theorem walked {run : Run} {w : Walk} (hc : Chain job fetch first (us ++ [url]) pages)
    (hl : pages.length = us.length + 1) (hw : w.Follows job (us ++ [url]) pages) :
    Trail job fetch first (run.walked false w (job.pageAt fetch url)).stage (us ++ [url]) := by
  cases hr : job.pageAt fetch url with
  | error e => exact .failed hc hl hr
  | ok page =>
      have hc' := hc.page hl hr
      have hl' : (pages ++ [page]).length = (us ++ [url]).length + 1 := by simp [hl]
      simp only [Run.walked, Bool.false_eq_true, if_false]
      split
      · next candidate hnext => exact wentOn hc' hl' (hw.push page) (by simp) hnext
      · next hnext =>
          refine .assembled hc' hl' ?_ (hw.push page).pages
          intro page' hlast candidate hnext'
          obtain rfl : page = page' := by simpa using hlast
          exact absurd hnext' (hnext candidate)

/-- A run that waits for the storage is past its walk. -/
theorem of_stores {stage : Stage} (h : Trail job fetch first stage us)
    (hs : stage.stores = true) :
    job.delivery?.isSome = true ∧ ∃ pages, Chain job fetch first us pages := by
  cases h with
  | delivered _ hd hc => exact ⟨hd, _, hc⟩
  | _ => simp [Stage.stores] at hs

end Trail

/-- The run of a view is on its walk, and has no tasks. -/
structure View.OnTrail (v : View) (job : Job) (fetch : Text → Except FetchError FetchedPage)
    (first : Extracted) (us : List Text) : Prop where
  job_eq : v.run.job = job
  tasks : v.run.tasks = []
  trail : Trail job fetch first v.run.stage us
  requests : v.requests = us.map fun u => (none, ⟨u, job.source.headers⟩)

variable {r : Nat} {v v' : View} {a : Action} {candidate : Text}

/-- **Every move of a run lengthens its chain, or leaves it.** -/
theorem Move.onTrail (h : Move r v a v') (ht : v.OnTrail job fetch first us)
    (hfirst : job.firstPage = .ok first) (hnext : first.next = [candidate])
    (hc : v'.cancelled = false)
    (hfetch : ∀ w url reply fires,
      (a = .exchange r reply fires ∧ v.run.stage = .asking w url) ∨
        (a = .reply r reply fires ∧ v.run.stage = .walking w url) → reply = fetch url) :
    ∃ us', v'.OnTrail job fetch first us' := by
  obtain ⟨rfl, htasks, htrail, hq⟩ := ht
  have hactive := h.active_of_active hc
  -- a run with no tasks has none after a move of its walk
  have hstop : ∀ {run : Run}, run.tasks = v.run.tasks ∨ run.tasks = v.run.tasks.map Task.stop →
      run.tasks = [] := by
    rintro run (h | h) <;> simp [h, htasks]
  cases h with
  | other => exact ⟨us, rfl, htasks, htrail, hq⟩
  | begin hs =>
      rw [hs] at htrail
      cases htrail with
      | delivered hs' => simp [Stage.stores] at hs'
      | fresh =>
          obtain ⟨body, hb⟩ := Job.exists_body_of_firstPage hfirst
          rw [hactive, Run.begun_of_firstPage hb hfirst, hnext]
          simp only [Run.spread]
          exact ⟨[], by simp, by simp [htasks],
            .wentOn .single rfl (.start v.run.job first) rfl hnext, hq⟩
  | notice hs hc' => simp [hc'] at hactive
  | @request w url fires hs =>
      rw [hs] at htrail
      cases htrail with
      | delivered hs' => simp [Stage.stores] at hs'
      | asking hch hl hg hw =>
          exact ⟨us ++ [url], rfl, htasks, .walking (hch.request hl hg) hl hw, by simp [hq]; rfl⟩
  | @exchange w url reply fires hs =>
      obtain rfl := hfetch w url reply fires (.inl ⟨rfl, hs⟩)
      obtain rfl : fires = false := hc
      rw [hs] at htrail
      cases htrail with
      | delivered hs' => simp [Stage.stores] at hs'
      | asking hch hl hg hw =>
          exact ⟨us ++ [url], by simp, hstop (Run.walked_tasks ..),
            .walked (hch.request hl hg) hl hw, by simp [hq]; rfl⟩
  | @reply w url reply fires hs =>
      obtain rfl := hfetch w url reply fires (.inr ⟨rfl, hs⟩)
      obtain rfl : fires = false := hc
      rw [hs] at htrail
      cases htrail with
      | delivered hs' => simp [Stage.stores] at hs'
      | walking hch hl hw =>
          exact ⟨_, by simp, hstop (Run.walked_tasks ..), .walked hch hl hw, hq⟩
  | queue ht => simp [htasks] at ht
  | launch ht => simp [htasks] at ht
  | answer ht => simp [htasks] at ht
  | die ht => simp [htasks] at ht
  | drop ht => simp [htasks] at ht
  | collect hs =>
      rw [hs] at htrail
      cases htrail with
      | delivered hs' => simp [Stage.stores] at hs'
  | gather hs =>
      rw [hs] at htrail
      cases htrail with
      | delivered hs' => simp [Stage.stores] at hs'
  | abandon hs hc' => simp [hc'] at hactive
  | @deliver pages d hs hd =>
      rw [hs] at htrail
      cases htrail with
      | delivered hs' => simp [Stage.stores] at hs'
      | assembled hch =>
          exact ⟨us, by simp, hstop (Run.delivered_tasks ..),
            .delivered (Run.delivered_ends ..) (by simp [hd]) hch, hq⟩
  | refuse hs =>
      obtain ⟨hd, pages, hch⟩ := htrail.of_stores hs
      exact ⟨us, rfl, hstop (.inr rfl), .delivered (.inr ⟨_, rfl⟩) hd hch, hq⟩
  | update hs =>
      obtain ⟨hd, pages, hch⟩ := htrail.of_stores (by rw [hs]; rfl)
      exact ⟨us, rfl, htasks, .delivered (.inl rfl) hd hch, hq⟩
  | finish hs =>
      obtain ⟨hd, pages, hch⟩ := htrail.of_stores (by
        rcases hs with ⟨hs, -⟩ | hs <;> rw [hs] <;> rfl)
      exact ⟨us, rfl, htasks, .delivered (.inr ⟨_, rfl⟩) hd hch, hq⟩

/-! ### Every run -/

/-- **What is promised of a walk** that has made these requests and read these pages, with its run
as it stands. -/
structure Walks (job : Job) (fetch : Text → Except FetchError FetchedPage) (first : Extracted)
    (stage : Stage) (us : List Text) (pages : List Extracted) : Prop where
  chain : Chain job fetch first us pages
  /-- A run that has its pages has those of the chain, and the chain goes no further. -/
  assembled : ∀ p, stage = .assembled p →
    p.texts = pages.map (·.text) ∧ pages.length = us.length + 1 ∧ Chain.Maximal job us pages
  /-- A run that fails on its walk fails by the page that it requested last. -/
  failed : job.delivery? = none → ∀ e, stage = .ended (.error e) →
    pages.length = us.length ∧ ∃ url, us.getLast? = some url ∧ job.pageAt fetch url = .error e

theorem Trail.exists_walks {stage : Stage} (h : Trail job fetch first stage us) :
    ∃ pages, Walks job fetch first stage us pages := by
  cases h with
  | fresh => exact ⟨[first], .single, by simp, by simp⟩
  | asking hc => exact ⟨_, hc, by simp, by simp⟩
  | walking hc => exact ⟨_, hc, by simp, by simp⟩
  | @assembled p us pages hc hl hm hp =>
      refine ⟨pages, hc, ?_, by simp⟩
      rintro _ ⟨⟩
      exact ⟨hp, hl, hm⟩
  | @failed e url us pages hc hl he =>
      refine ⟨pages, hc, by simp, ?_⟩
      rintro - _ ⟨⟩
      exact ⟨by simp [hl], url, by simp, he⟩
  | delivered hs hd hc =>
      refine ⟨_, hc, ?_, fun hnone => by simp [hnone] at hd⟩
      rintro p rfl
      simp [Stage.stores] at hs

namespace Machine

variable {m n : Machine} {acts : List Action}

/-- The replies to the requests that run `r` makes on its walk are a function of the URL. -/
def FetchesBy (m : Machine) (r : Nat) (acts : List Action)
    (fetch : Text → Except FetchError FetchedPage) : Prop :=
  ∀ k a v w url reply fires, m.Takes acts k a → k.view? r = some v →
    (a = .exchange r reply fires ∧ v.run.stage = .asking w url) ∨
      (a = .reply r reply fires ∧ v.run.stage = .walking w url) → reply = fetch url

/-- **The requests and pages of a walk are a chain**, maximal if the walk comes to its end, whatever
the other runs do. -/
theorem Path.walks (hm : m.Fresh r job) (hfirst : job.firstPage = .ok first)
    (hnext : first.next = [candidate]) (hfetch : m.FetchesBy r acts fetch) (hp : m.Path acts n)
    (htoken : job.token ∉ n.fired) :
    ∃ run us pages, n.runs[r]? = some run ∧
      n.requestsOf r = us.map (fun u => (none, ⟨u, job.source.headers⟩)) ∧
      Walks job fetch first run.stage us pages := by
  -- a token that has not fired in the end has not fired before, so the trail is never lost
  let I : List Action → View → Prop := fun _ v =>
    v.run.job = job ∧ (v.cancelled = false → ∃ us, v.OnTrail job fetch first us)
  obtain ⟨v, hv, hjob, hi⟩ := hp.view_induction (I := I) hm.view
    ⟨rfl, fun _ => ⟨[], rfl, rfl, .fresh, rfl⟩⟩ (by
      rintro before k a v v' ht hv ⟨hjob, hi⟩ hmove
      refine ⟨hmove.job.trans hjob, fun hc => ?_⟩
      obtain ⟨us, hus⟩ := hi (hmove.active_of_active hc)
      exact hmove.onTrail hus hfirst hnext hc fun w url reply fires =>
        hfetch k a v w url reply fires ht hv)
  obtain ⟨hr, hc, hq, -⟩ := view?_eq_some_iff.1 hv
  obtain ⟨us, -, -, htrail, hus⟩ := hi (by
    rw [← hc, isCancelled, hjob]
    simpa using htoken)
  obtain ⟨pages, hw⟩ := htrail.exists_walks
  exact ⟨v.run, us, pages, hr, hq.trans hus, hw⟩

end Machine

/-! ### A page that names itself -/

/-- A page whose text is a link, wherever one looks for it. -/
def linkPage : FetchedPage :=
  { requestedUrl := "x://h/u", finalUrl := "x://h/u", body := some ['x'] }

/-- Where the link leads. -/
def linkUrl : Text := "x://h/x"

/-- What is found on the page. -/
def linkPage.found : Extracted := { text := "\u3000\u3000x", next := [linkUrl] }

theorem linkPage.next_found : linkPage.found.next = [linkUrl] := rfl

/-- A job to read that page and what it links to, up to a chapter elsewhere. -/
def Job.looped : Job where
  source := { rules := { content := "##y", nextPages := some "##y" } }
  first := linkPage
  nextChapter := some ['z']

theorem Job.pageAt_looped (url : Text) :
    Job.looped.pageAt (fun _ => .ok linkPage) url = .ok linkPage.found :=
  show extracted Job.looped.source.rules true "x://h/u" ['x'] = .ok linkPage.found by
    decide +kernel

theorem Job.resolve_looped : Job.looped.resolve linkUrl = linkUrl ∧
    Job.looped.home = "x://h/u" ∧ Job.looped.resolve ['z'] = "x://h/z" := by decide +kernel

theorem Job.firstPage_looped : Job.looped.firstPage = .ok linkPage.found :=
  Job.pageAt_looped _

/-- The walk goes to the page that the first page links to, and from there it would come back. -/
theorem Walk.Follows.target?_looped {w : Walk} {us : List Text} {pages : List Extracted}
    (h : w.Follows Job.looped us pages) :
    w.target? linkUrl = if linkUrl ∈ us then none else some linkUrl := by
  obtain ⟨hx, hu, hz⟩ := Job.resolve_looped
  have hnext : Job.looped.nextChapter.map Job.looped.resolve = some ("x://h/z" : Text) :=
    congrArg some hz
  have hapart : linkUrl ≠ [] ∧ linkUrl ≠ "x://h/u" ∧ some ("x://h/z" : Text) ≠ some linkUrl := by
    decide
  rw [h.target?_eq, hx, hu, hnext]
  simp only [hapart, false_or, or_false]

theorem Run.begun_looped : ∃ w, (Run.begun { job := Job.looped } false).stage = .asking w linkUrl ∧
    w.Follows Job.looped [linkUrl] [linkPage.found] := by
  have hstart := Walk.Follows.start Job.looped linkPage.found
  refine ⟨_, ?_, hstart.visit linkUrl⟩
  rw [begun_of_firstPage rfl Job.firstPage_looped, linkPage.next_found]
  simp only [spread, wentOn]
  rw [hstart.target?_looped]
  rfl

theorem Run.walked_looped {run : Run} {w : Walk} (hjob : run.job = Job.looped)
    (hw : w.Follows Job.looped [linkUrl] [linkPage.found]) :
    (run.walked false w (readReply run.job.source.rules true linkUrl (.ok linkPage))).stage =
      .assembled ⟨[linkPage.found.text, linkPage.found.text]⟩ := by
  have hread : readReply Job.looped.source.rules true linkUrl (.ok linkPage) = .ok linkPage.found :=
    Job.pageAt_looped linkUrl
  have hpush := hw.push linkPage.found
  rw [hjob, hread]
  simp only [walked, Bool.false_eq_true, if_false, linkPage.next_found, wentOn]
  rw [hpush.target?_looped]
  exact congrArg (fun texts => Stage.assembled ⟨texts⟩) hpush.pages

/-- A page that names itself is read once more, and the walk ends there. -/
theorem Machine.walks_looped : ∃ acts n run us pages,
    (Machine.ofJobs (.ofSize 1) [Job.looped]).Path acts n ∧ n.runs[0]? = some run ∧
      n.requestsOf 0 = [(none, ⟨linkUrl, []⟩)] ∧
      run.stage = .assembled ⟨[linkPage.found.text, linkPage.found.text]⟩ ∧
      n.requestsOf 0 = us.map (fun u => (none, ⟨u, []⟩)) ∧
      Walks Job.looped (fun _ => .ok linkPage) linkPage.found run.stage us pages := by
  have hm : (Machine.ofJobs (.ofSize 1) [Job.looped]).Fresh 0 Job.looped :=
    Machine.fresh_ofJobs rfl _
  obtain ⟨w, hbegun, hw⟩ := Run.begun_looped
  obtain ⟨_, h1, v1⟩ := Machine.Path.nil.move hm.view (.begin rfl) rfl (by simp)
  have hexchange : Move 0 ⟨Run.begun { job := Job.looped } false, false, [], []⟩
      (.exchange 0 (.ok linkPage) false) _ := .exchange hbegun rfl
  obtain ⟨n, h2, v2⟩ := h1.move v1 hexchange rfl (by simp)
  obtain ⟨hr', hc, hq', -⟩ := Machine.view?_eq_some_iff.1 v2
  have hfetch : (Machine.ofJobs (.ofSize 1) [Job.looped]).FetchesBy 0
      [.begin 0, .exchange 0 (.ok linkPage) false] fun _ => .ok linkPage := by
    rintro k a v w url reply fires ⟨before, after, hacts, -⟩ - ha
    have hmem : a ∈ [Action.begin 0, .exchange 0 (.ok linkPage) false] := by simp [hacts]
    rcases ha with ⟨rfl, -⟩ | ⟨rfl, -⟩
    · obtain ⟨h, -⟩ : reply = .ok linkPage ∧ _ := by simpa using hmem
      exact h
    · simp at hmem
  obtain ⟨run, us, pages, hr, hq, hwalks⟩ :=
    Machine.Path.walks hm Job.firstPage_looped rfl hfetch h2 (by
      simpa [Machine.isCancelled] using hc)
  obtain rfl := Option.some.inj (hr.symm.trans hr')
  have hq' : n.requestsOf 0 = [(none, ⟨linkUrl, []⟩)] := by
    rw [hq', List.nil_append, Run.target, Run.begun_job]
    rfl
  exact ⟨_, n, _, us, pages, h2, hr, hq', Run.walked_looped (by simp) hw, hq, hwalks⟩

end Content

end ChapterAssembly
