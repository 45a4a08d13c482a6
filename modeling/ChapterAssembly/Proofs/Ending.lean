/-
**Every walk ends.**

Nothing counts the pages of a walk.  It ends because each of its requests is for a URL that it has
not requested before, and because it goes on only behind a page that has come: so all its requests
but the last are for different URLs that bring a page with a body, and if there are only so many of
these, then the walk makes at most one request more.

Main definitions:

* `brings` — the URLs that bring a page with a body;
* `Stage.walks`, `Action.walks` — a run on its walk, and an action that is a step of a walk;
* `onWalk` — the requests that are made on a walk;
* `Machine.WalkEnds` — what is promised of the walk of a run.

Main results:

* `Chain.length_le` — **a chain has at most one request more than there are URLs that bring a
  page**;
* `Move.onWalk` — a walk makes one request at a time, and none once the run is cancelled;
* `Move.paces` — two steps at most go with each request;
* `Machine.Path.walk_ends` — **every walk ends**, whatever the first page, the rules and the next
  chapter are.
-/

import Mathlib.Data.Set.Card
import ChapterAssembly.Proofs.Walk

set_option relaxedAutoImplicit false
set_option autoImplicit false

namespace ChapterAssembly

namespace Content

/-! ### URLs that bring a page -/

section

variable {job : Job} {fetch : Text → Except FetchError FetchedPage} {first : Extracted}
  {us : List Text} {pages : List Extracted}

/-- The URLs that bring a page with a body. -/
def brings (fetch : Text → Except FetchError FetchedPage) : Set Text :=
  {url | ∃ page, fetch url = .ok page ∧ page.body.isSome = true}

theorem mem_brings_of_pageAt {url : Text} {page : Extracted}
    (h : job.pageAt fetch url = .ok page) : url ∈ brings fetch := by
  unfold Job.pageAt at h
  cases hreply : fetch url with
  | error e =>
      rw [hreply] at h
      cases h
  | ok found =>
      refine ⟨found, hreply, ?_⟩
      cases hbody : found.body with
      | some body => rfl
      | none => simp [hreply, readReply, hbody] at h

/-- Every request of a chain but the last has brought a page. -/
theorem Chain.mem_brings (h : Chain job fetch first us pages) {u : Text} (hu : u ∈ us.dropLast) :
    u ∈ brings fetch := by
  obtain ⟨k, hk⟩ := List.mem_iff_getElem?.1 hu
  have hlt : k < us.dropLast.length := (List.getElem?_eq_some_iff.1 hk).1
  rw [List.length_dropLast] at hlt
  have hnext : k + 1 < us.length := by omega
  -- the next request is for what the page names, so there is a page
  obtain ⟨page, -, hpage, -⟩ := h.link (k + 1) us[k + 1] (List.getElem?_eq_getElem hnext)
  rw [List.getElem?_dropLast, if_pos (by omega)] at hk
  exact mem_brings_of_pageAt (h.read k u page hk hpage)

/-- **A chain has at most one request more than there are URLs that bring a page.** -/
theorem Chain.length_le (h : Chain job fetch first us pages) (hfin : (brings fetch).Finite) :
    us.length ≤ (brings fetch).ncard + 1 := by
  have hnodup : us.dropLast.Nodup :=
    (List.nodup_cons.1 h.nodup).2.sublist (List.dropLast_sublist us)
  have hsub : (us.dropLast.toFinset : Set Text) ⊆ brings fetch := by
    intro u hu
    exact h.mem_brings (List.mem_toFinset.1 hu)
  have hcard := Set.ncard_le_ncard hsub hfin
  rw [Set.ncard_coe_finset, List.toFinset_card_of_nodup hnodup, List.length_dropLast] at hcard
  omega

end

/-! ### Steps of a walk -/

/-- The run is on its walk. -/
def Stage.walks : Stage → Bool
  | .asking _ _ => true
  | .walking _ _ => true
  | _ => false

/-- The request of a walk is out. -/
def Stage.isOut : Stage → Bool
  | .walking _ _ => true
  | _ => false

/-- An action is a step of the walk of run `r`: it requests a page, or brings one. -/
def Action.walks (r : Nat) : Action → Bool
  | .request i _ => i == r
  | .exchange i _ _ => i == r
  | .reply i _ _ => i == r
  | _ => false

/-- The requests that are made on a walk. -/
def onWalk (requests : List (Option Nat × FetchTarget)) : List FetchTarget :=
  requests.filterMap fun q => if q.1 = none then some q.2 else none

theorem onWalk_append_walk (requests : List (Option Nat × FetchTarget)) (target : FetchTarget) :
    onWalk (requests ++ [(none, target)]) = onWalk requests ++ [target] := by
  simp [onWalk]

theorem onWalk_append_task (requests : List (Option Nat × FetchTarget)) (i : Nat)
    (target : FetchTarget) : onWalk (requests ++ [(some i, target)]) = onWalk requests := by
  simp [onWalk]

variable {r : Nat} {v v' : View} {a : Action}

/-- **A walk makes one request at a time**, and none once the run is cancelled. -/
theorem Move.onWalk (h : Move r v a v') :
    Content.onWalk v'.requests = Content.onWalk v.requests ∨
      ∃ w url, v.run.stage = .asking w url ∧ v.cancelled = false ∧
        Content.onWalk v'.requests = Content.onWalk v.requests ++ [v.run.target url] := by
  cases h with
  | request hs hc => exact .inr ⟨_, _, hs, hc, onWalk_append_walk ..⟩
  | exchange hs hc => exact .inr ⟨_, _, hs, hc, onWalk_append_walk ..⟩
  | launch => exact .inl (onWalk_append_task ..)
  | _ => exact .inl rfl

/-! ### Where a step leads -/

namespace Run

variable (run : Run)

theorem isOut_wentOn (w : Walk) (candidate : Text) :
    (run.wentOn w candidate).stage.isOut = false := by
  unfold wentOn
  split <;> rfl

theorem isOut_walked (cancelled : Bool) (w : Walk) (found : Except ContentError Extracted) :
    (run.walked cancelled w found).stage.isOut = false := by
  unfold walked
  split
  · rfl
  · split
    · rfl
    · split
      · exact isOut_wentOn ..
      · rfl

theorem isOut_begun (cancelled : Bool) : (run.begun cancelled).stage.isOut = false := by
  obtain ⟨title, e, hb⟩ | ⟨title, page, -, -, hb⟩ := run.begun_cases cancelled
  · rw [hb]
    rfl
  · rw [hb]
    unfold spread
    split
    · rfl
    · exact isOut_wentOn ..
    · rfl

/-- A first page that fails, or does not name exactly one other, leads to no walk. -/
theorem walks_begun (cancelled : Bool)
    (hone : ¬ ∃ first candidate, run.job.firstPage = .ok first ∧ first.next = [candidate]) :
    (run.begun cancelled).stage.walks = false := by
  obtain ⟨title, e, hb⟩ | ⟨title, page, -, hf, hb⟩ := run.begun_cases cancelled
  · rw [hb]
    rfl
  · rw [hb]
    match hnext : page.next with
    | [] => rfl
    | [candidate] => exact absurd ⟨page, candidate, hf, hnext⟩ hone
    | _ :: _ :: _ => rfl

theorem walks_collect {first : Text} {texts : List (Option Text)}
    (hs : run.stage = .spreading first texts) (i : Nat) :
    (run.collect i first texts).stage.walks = false := by
  unfold collect
  split
  · simp only
    split <;> rfl
  · rfl
  · rw [hs]
    rfl

theorem walks_delivered (cancelled : Bool) (d : Delivery) (pages : Pages) :
    (run.delivered cancelled d pages).stage.walks = false := by
  rcases run.delivered_ends cancelled d pages with hs | ⟨outcome, hs⟩
  · cases hstage : (run.delivered cancelled d pages).stage <;> simp_all [Stage.stores, Stage.walks]
  · rw [hs]
    rfl

end Run

theorem Stage.isOut_of_not_walks {stage : Stage} (h : stage.walks = false) :
    stage.isOut = false := by
  cases stage <;> simp_all [walks, isOut]

/-- A run comes to a walk only by its first page, or by a step of the walk. -/
theorem Move.not_walks (h : Move r v a v') (hs : v.run.stage.walks = false)
    (hbegin : a = .begin r → v'.run.stage.walks = false) : v'.run.stage.walks = false := by
  cases h with
  | begin => exact hbegin rfl
  | request hs' => simp [hs', Stage.walks] at hs
  | exchange hs' => simp [hs', Stage.walks] at hs
  | reply hs' => simp [hs', Stage.walks] at hs
  | collect hs' => exact Run.walks_collect _ hs' _
  | deliver => exact Run.walks_delivered _ _ _ _
  | other | queue | launch | answer | die | drop => exact hs
  | notice | gather | abandon | refuse | update | finish => rfl

/-- **Two steps at most go with each request**: while it is out, the second is still to come. -/
theorem Move.paces (h : Move r v a v') :
    (a.walks r).toNat + v'.run.stage.isOut.toNat + 2 * (Content.onWalk v.requests).length ≤
      v.run.stage.isOut.toNat + 2 * (Content.onWalk v'.requests).length := by
  cases h with
  | other ha =>
      have hwalks : a.walks r = false := by
        cases a <;> simp_all [Action.walks, Action.run?]
      simp [hwalks]
  | begin hs => simp [Action.walks, Run.isOut_begun]
  | request =>
      simp only [Action.walks, onWalk_append_walk, List.length_append, beq_self_eq_true,
        Bool.toNat_true, List.length_singleton, Stage.isOut]
      omega
  | @exchange w url reply fires hs =>
      have hasks : v.run.stage.isOut = false := by
        rw [hs]
        rfl
      have hread := Run.isOut_walked v.run fires w
        (readReply v.run.job.source.rules true url reply)
      simp only [Action.walks, hasks, hread, onWalk_append_walk, List.length_append,
        beq_self_eq_true, Bool.toNat_true, Bool.toNat_false, List.length_singleton]
      omega
  | @reply w url reply fires hs =>
      have hout : v.run.stage.isOut = true := by
        rw [hs]
        rfl
      have hread := Run.isOut_walked v.run fires w
        (readReply v.run.job.source.rules true url reply)
      simp only [Action.walks, hout, hread, beq_self_eq_true, Bool.toNat_true, Bool.toNat_false]
      omega
  | launch => simp [Action.walks, onWalk_append_task]
  | collect hs =>
      simp [Action.walks, Stage.isOut_of_not_walks (Run.walks_collect _ hs _)]
  | deliver =>
      simp [Action.walks, Stage.isOut_of_not_walks (Run.walks_delivered _ _ _ _)]
  | queue | answer | die | drop => simp [Action.walks]
  | notice | gather | abandon | refuse | update | finish =>
      simp [Action.walks, Stage.isOut]

/-! ### Every run -/

section

variable {job : Job} {fetch : Text → Except FetchError FetchedPage} {first : Extracted}
  {candidate : Text}

/-- The requests that a view shows of the walk of its run are those of a chain, whether the run is
cancelled or not; while it is not, the run is on the trail of its chain. -/
structure View.Chained (v : View) (job : Job) (fetch : Text → Except FetchError FetchedPage)
    (first : Extracted) : Prop where
  chain : ∃ us pages, Chain job fetch first us pages ∧
    onWalk v.requests = us.map fun u => ⟨u, job.source.headers⟩
  trail : v.cancelled = false → ∃ us, v.OnTrail job fetch first us

theorem View.OnTrail.chained {us : List Text} (h : v.OnTrail job fetch first us) :
    v.Chained job fetch first where
  chain := by
    obtain ⟨pages, hw⟩ := h.trail.exists_walks
    refine ⟨us, pages, hw.chain, ?_⟩
    rw [h.requests]
    simp [onWalk]
  trail _ := ⟨us, h⟩

theorem Move.chained (h : Move r v a v') (hv : v.Chained job fetch first)
    (hfirst : job.firstPage = .ok first) (hnext : first.next = [candidate])
    (hfetch : ∀ w url reply fires,
      (a = .exchange r reply fires ∧ v.run.stage = .asking w url) ∨
        (a = .reply r reply fires ∧ v.run.stage = .walking w url) → reply = fetch url) :
    v'.Chained job fetch first := by
  cases hc : v'.cancelled with
  | false =>
      obtain ⟨us, hus⟩ := hv.trail (h.active_of_active hc)
      obtain ⟨us', hus'⟩ := h.onTrail hus hfirst hnext hc hfetch
      exact hus'.chained
  | true =>
      refine ⟨?_, fun hactive => by simp [hactive] at hc⟩
      rcases h.onWalk with hsame | ⟨w, url, hs, hactive, hmore⟩
      · rw [hsame]
        exact hv.chain
      · -- the token fires with the request, which is the next one of the chain
        obtain ⟨us, rfl, -, htrail, hq⟩ := hv.trail hactive
        rw [hs] at htrail
        cases htrail with
        | delivered hs' => simp [Stage.stores] at hs'
        | asking hch hl hg =>
            refine ⟨us ++ [url], _, hch.request hl hg, ?_⟩
            rw [hmore, hq]
            simp [Content.onWalk, Run.target]

end

namespace Machine

variable {m n : Machine} {acts : List Action} {job : Job} {first : Extracted} {candidate : Text}
  {fetch : Text → Except FetchError FetchedPage}

/-- The requests of a walk are those of a chain, even if its run is cancelled. -/
theorem Path.chained (hm : m.Fresh r job) (hfirst : job.firstPage = .ok first)
    (hnext : first.next = [candidate]) (hfetch : m.FetchesBy r acts fetch) (hp : m.Path acts n) :
    ∃ us pages, Chain job fetch first us pages ∧
      onWalk (n.requestsOf r) = us.map fun u => ⟨u, job.source.headers⟩ := by
  have hstart : View.OnTrail ⟨{ job }, m.isCancelled { job }, [], []⟩ job fetch first [] :=
    ⟨rfl, rfl, .fresh, rfl⟩
  obtain ⟨v, hv, hi⟩ := hp.view_induction (I := fun _ v => v.Chained job fetch first) hm.view
    hstart.chained fun _ k a v _ ht hv hi hmove =>
      hmove.chained hi hfirst hnext fun w url reply fires => hfetch k a v w url reply fires ht hv
  obtain ⟨-, -, hq, -⟩ := view?_eq_some_iff.1 hv
  rw [hq]
  exact hi.chain

/-- Without a first page that names exactly one other there is no walk. -/
theorem Path.onWalk_eq_nil (hm : m.Fresh r job)
    (hone : ¬ ∃ first candidate, job.firstPage = .ok first ∧ first.next = [candidate])
    (hp : m.Path acts n) : onWalk (n.requestsOf r) = [] := by
  let I : List Action → View → Prop := fun _ v =>
    v.run.job = job ∧ v.run.stage.walks = false ∧ onWalk v.requests = []
  obtain ⟨v, hv, -, -, hi⟩ := hp.view_induction (I := I) hm.view ⟨rfl, rfl, rfl⟩ (by
    intro before k a v v' _ _ hi hmove
    obtain ⟨hjob, hs, hq⟩ := hi
    have hs' : v'.run.stage.walks = false := hmove.not_walks hs (by
      rintro rfl
      cases hmove with
      | other ha => exact absurd rfl ha
      | begin => exact Run.walks_begun _ _ (hjob ▸ hone))
    refine ⟨hmove.job.trans hjob, hs', ?_⟩
    rcases hmove.onWalk with hsame | ⟨w, url, hasking, -, -⟩
    · rw [hsame, hq]
    · simp [hasking, Stage.walks] at hs)
  obtain ⟨-, -, hq, -⟩ := view?_eq_some_iff.1 hv
  rw [hq, hi]

theorem Path.length_onWalk_le (hm : m.Fresh r job) (hfin : (brings fetch).Finite)
    (hfetch : m.FetchesBy r acts fetch) (hp : m.Path acts n) :
    (onWalk (n.requestsOf r)).length ≤ (brings fetch).ncard + 1 := by
  by_cases hone : ∃ first candidate, job.firstPage = .ok first ∧ first.next = [candidate]
  · obtain ⟨first, candidate, hfirst, hnext⟩ := hone
    obtain ⟨us, pages, hchain, hus⟩ := hp.chained hm hfirst hnext hfetch
    rw [hus, List.length_map]
    exact hchain.length_le hfin
  · rw [hp.onWalk_eq_nil hm hone]
    exact Nat.zero_le _

/-- A walk takes at most two steps for each of its requests. -/
theorem Path.countP_walks_le (hm : m.Fresh r job) (hp : m.Path acts n) :
    acts.countP (Action.walks r) ≤ 2 * (onWalk (n.requestsOf r)).length := by
  let I : List Action → View → Prop := fun acts v =>
    acts.countP (Action.walks r) + v.run.stage.isOut.toNat ≤ 2 * (onWalk v.requests).length
  obtain ⟨v, hv, hi⟩ := hp.view_induction (I := I) hm.view (by simp [I, Stage.isOut]) (by
    intro before k a v v' _ _ hi hmove
    have hpaces := hmove.paces
    have hlast : [a].countP (Action.walks r) = (a.walks r).toNat := by
      cases h : a.walks r <;> simp [h]
    simp only [I, List.countP_append, hlast] at hi ⊢
    omega)
  obtain ⟨-, -, hq, -⟩ := view?_eq_some_iff.1 hv
  rw [hq]
  omega

theorem FetchesBy.nil : m.FetchesBy r [] fetch := by
  rintro k a v w url reply fires ⟨before, after, hacts, -⟩
  simp at hacts

/-- A path goes on with one more action, whose reply is a function of the URL as well. -/
theorem FetchesBy.snoc (h : m.FetchesBy r acts fetch) (hp : m.Path acts n)
    (hv : n.view? r = some v)
    (ha : ∀ w url reply fires,
      (a = .exchange r reply fires ∧ v.run.stage = .asking w url) ∨
        (a = .reply r reply fires ∧ v.run.stage = .walking w url) → reply = fetch url) :
    m.FetchesBy r (acts ++ [a]) fetch := by
  intro k b u w url reply fires ht hu
  rcases ht.of_snoc hp with ht | ⟨rfl, rfl⟩
  · exact h k b u w url reply fires ht hu
  · obtain rfl : v = u := Option.some.inj (hv.symm.trans hu)
    exact ha w url reply fires

/-- **What is promised of the end of a walk**, wherever its run stands. -/
structure WalkEnds (m : Machine) (r : Nat) (fetch : Text → Except FetchError FetchedPage)
    (acts : List Action) (n : Machine) (bound : Nat) : Prop where
  /-- There is at most one request more than the bound. -/
  requests : (onWalk (n.requestsOf r)).length ≤ bound + 1
  /-- So the walk cannot go on for ever. -/
  steps : acts.countP (Action.walks r) ≤ 2 * (bound + 1)
  /-- Nor is it ever stuck: what the run can do alone leads off the walk. -/
  ends : ∃ more k run, m.Path (acts ++ more) k ∧ (∀ a ∈ more, a.run? = some r) ∧
    m.FetchesBy r (acts ++ more) fetch ∧ k.runs[r]? = some run ∧ run.stage.walks = false

/-- A run on its walk can take a step of it, or leaves it. -/
theorem Path.walk_step (hfetch : m.FetchesBy r acts fetch) (hp : m.Path acts n)
    (hv : n.view? r = some v) (hwalks : v.run.stage.walks = true) :
    ∃ a k v', m.Path (acts ++ [a]) k ∧ a.run? = some r ∧ m.FetchesBy r (acts ++ [a]) fetch ∧
      k.view? r = some v' ∧ (a.walks r = true ∨ v'.run.stage.walks = false) := by
  cases hc : v.cancelled with
  | true =>
      have hwaits : v.run.stage.waits = true := by
        cases hs : v.run.stage <;> simp_all [Stage.walks, Stage.waits]
      obtain ⟨k, hk, hv'⟩ := hp.move hv (.notice hwaits hc) rfl (by simp)
      exact ⟨_, k, _, hk, rfl, hfetch.snoc hp hv (by simp), hv', .inr rfl⟩
  | false =>
      cases hs : v.run.stage with
      | asking w url =>
          have hmove : Move r v (.request r false) _ := .request hs hc
          obtain ⟨k, hk, hv'⟩ := hp.move hv hmove rfl (by simp)
          exact ⟨_, k, _, hk, rfl, hfetch.snoc hp hv (by simp), hv',
            .inl (by simp [Action.walks])⟩
      | walking w url =>
          have hmove : Move r v (.reply r (fetch url) false) _ := .reply hs hc
          obtain ⟨k, hk, hv'⟩ := hp.move hv hmove rfl (by simp)
          refine ⟨_, k, _, hk, rfl, hfetch.snoc hp hv ?_, hv', .inl (by simp [Action.walks])⟩
          rintro w' url' reply fires (⟨h, -⟩ | ⟨h, hs'⟩)
          · cases h
          · rw [hs] at hs'
            cases h
            cases hs'
            rfl
      | _ => simp [hs, Stage.walks] at hwalks

/-- What a run can do alone leads off its walk. -/
theorem Path.exists_off_walk (hm : m.Fresh r job) (hfin : (brings fetch).Finite)
    (hfetch : m.FetchesBy r acts fetch) (hp : m.Path acts n) :
    ∃ more k run, m.Path (acts ++ more) k ∧ (∀ a ∈ more, a.run? = some r) ∧
      m.FetchesBy r (acts ++ more) fetch ∧ k.runs[r]? = some run ∧ run.stage.walks = false := by
  -- by induction on the steps that are left to the walk
  generalize hleft : 2 * ((brings fetch).ncard + 1) - acts.countP (Action.walks r) = left
  induction left using Nat.strong_induction_on generalizing acts n with
  | _ left ih =>
    obtain ⟨v, hv, -⟩ := hp.view_induction (I := fun _ _ => True) hm.view trivial (by simp)
    cases hwalks : v.run.stage.walks with
    | false =>
        obtain ⟨hr, -⟩ := view?_eq_some_iff.1 hv
        exact ⟨[], n, v.run, by simpa using hp, by simp, by simpa using hfetch, hr, hwalks⟩
    | true =>
        obtain ⟨a, k, v', hk, ha, hfetch', hv', hstep⟩ := hp.walk_step hfetch hv hwalks
        rcases hstep with hstep | hoff
        · have hle := hk.countP_walks_le hm
          have hle' := hk.length_onWalk_le hm hfin hfetch'
          have hcount : (acts ++ [a]).countP (Action.walks r) =
              acts.countP (Action.walks r) + 1 := by
            simp [hstep]
          obtain ⟨more, j, run, hj, hown, hfetch'', hr, hoff⟩ :=
            ih _ (by omega) hfetch' hk rfl
          refine ⟨a :: more, j, run, by simpa using hj, ?_, by simpa using hfetch'', hr, hoff⟩
          rintro b hb
          rcases List.mem_cons.1 hb with rfl | hb
          · exact ha
          · exact hown b hb
        · obtain ⟨hr, -⟩ := view?_eq_some_iff.1 hv'
          exact ⟨[a], k, v'.run, hk, by simpa using ha, hfetch', hr, hoff⟩

/-- **Every walk ends**: if only finitely many URLs bring a page with a body, then a walk makes at
most one request more than there are, whatever its first page, its rules and its next chapter
are, and whatever the other runs do. -/
theorem Path.walk_ends (hm : m.Fresh r job) (hfin : (brings fetch).Finite)
    (hfetch : m.FetchesBy r acts fetch) (hp : m.Path acts n) :
    m.WalkEnds r fetch acts n (brings fetch).ncard where
  requests := hp.length_onWalk_le hm hfin hfetch
  steps := by
    have hle := hp.countP_walks_le hm
    have hle' := hp.length_onWalk_le hm hfin hfetch
    omega
  ends := hp.exists_off_walk hm hfin hfetch

end Machine

/-! ### A site of one page -/

/-- There is one page, which names itself; nothing else is found. -/
def fetchLinked (url : Text) : Except FetchError FetchedPage :=
  if url = linkUrl then .ok linkPage else .error (.status url 404)

theorem brings_fetchLinked : brings fetchLinked = {linkUrl} := by
  ext url
  rw [Set.mem_singleton_iff]
  constructor
  · rintro ⟨page, hpage, -⟩
    by_contra hne
    rw [fetchLinked, if_neg hne] at hpage
    cases hpage
  · rintro rfl
    exact ⟨linkPage, rfl, rfl⟩

/-- The walk to the page that names itself makes one request, within its bound of two. -/
theorem Machine.walk_ends_looped : ∃ acts n, (brings fetchLinked).Finite ∧
    (Machine.ofJobs (.ofSize 1) [Job.looped]).Path acts n ∧
      n.requestsOf 0 = [(none, ⟨linkUrl, []⟩)] ∧
      (Machine.ofJobs (.ofSize 1) [Job.looped]).WalkEnds 0 fetchLinked acts n 1 := by
  have hm : (Machine.ofJobs (.ofSize 1) [Job.looped]).Fresh 0 Job.looped :=
    Machine.fresh_ofJobs rfl _
  have hfin : (brings fetchLinked).Finite := by
    rw [brings_fetchLinked]
    exact Set.finite_singleton _
  obtain ⟨w, hbegun, -⟩ := Run.begun_looped
  obtain ⟨k, h1, v1⟩ := Machine.Path.nil.move hm.view (.begin rfl) rfl (by simp)
  have hf1 : (Machine.ofJobs (.ofSize 1) [Job.looped]).FetchesBy 0 [.begin 0] fetchLinked :=
    Machine.FetchesBy.nil.snoc .nil hm.view (by simp)
  have hexchange : Move 0 ⟨Run.begun { job := Job.looped } false, false, [], []⟩
      (.exchange 0 (.ok linkPage) false) _ := .exchange hbegun rfl
  obtain ⟨n, h2, v2⟩ := h1.move v1 hexchange rfl (by simp)
  have hf2 := hf1.snoc h1 v1 (a := .exchange 0 (.ok linkPage) false) (by
    rintro w' url' reply fires (⟨h, hs⟩ | ⟨h, -⟩)
    · obtain ⟨-, rfl⟩ : w = w' ∧ linkUrl = url' := by simpa using hbegun.symm.trans hs
      cases h
      rfl
    · cases h)
  obtain ⟨-, -, hq, -⟩ := Machine.view?_eq_some_iff.1 v2
  have hends := Machine.Path.walk_ends hm hfin hf2 h2
  rw [brings_fetchLinked, Set.ncard_singleton] at hends
  refine ⟨_, n, hfin, h2, ?_, hends⟩
  rw [hq, List.nil_append, Run.target, Run.begun_job]
  rfl

end Content

end ChapterAssembly
