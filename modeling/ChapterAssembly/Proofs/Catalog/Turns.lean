/-
**Updates at once.**

A store has one lock for all its catalogs.  A call looks up the path of its catalog, waits for the
lock, and holds it while it reads the catalog, makes the directories and writes the file; between
two of these steps other calls may do theirs, and every access may meet a fault.  But only the one
that holds the lock has steps to do with files, so whatever the order of all steps, the disk is the
one that the calls leave if each is carried out alone and meets the same faults, in the order in
which they obtained the lock.  An entry that was written is there at the end, unless the file was
left half written after it: a lock does not help against that.

Main definitions:

* `Turn` — where a call is: it waits, it works, or it has ended;
* `Calls` — the disk, who has the lock, and where each call is;
* `Calls.Step`, `Calls.Path` — one step of one call, and steps of any calls in any order;
* `Calls.served` — the calls that obtained the lock, in their order.

Main results:

* `Calls.Path.serial` — what every step preserves: the disk and the results are those of the calls
  in turn, but for the call at work;
* `Calls.inTurn_of_path` — **calls at once are calls in turn**, and of each index the last entry
  that was written in turn is there at the end, but for files that were left half written;
* `Calls.loses` — an entry that is lost with its file, and one that is not read as it was written.
-/

import Mathlib.Data.Fin.VecNotation
import ChapterAssembly.Proofs.Catalog.Errands
import ChapterAssembly.Proofs.Program

set_option relaxedAutoImplicit false
set_option autoImplicit false

namespace ChapterAssembly

open Storing (on)

/-- **Where a call is.** -/
inductive Turn where
  /-- It was not made yet, or waits for the lock. -/
  | waiting
  /-- It has the lock, and this is left to do, with the faults that are left to meet. -/
  | working (rest : Program (Except StorageError Event)) (faults : List (Option Disk.Fault))
  | ended (result : Except StorageError Event)

/-- **Calls of one store at once**: the disk, who has the lock, and where each call is. -/
structure Calls (n : Nat) where
  disk : Disk
  lock : Option (Fin n) := none
  turn : Fin n → Turn := fun _ => .waiting

namespace Calls

variable {n : Nat}

/-- The work of a call, as a program. -/
def program (s : Shelf) (a : Errand) : Program (Except StorageError Event) :=
  ExceptT.run (s.update a.update.moment a.update.chapter)

/-- What a call does next. -/
inductive Action (n : Nat) where
  /-- It ends because its address has no directory; it does not wait for the lock. -/
  | refuse (i : Fin n)
  /-- It obtains the lock. -/
  | take (i : Fin n)
  /-- It does one thing with files. -/
  | work (i : Fin n)
  /-- It ends and leaves the lock. -/
  | leave (i : Fin n)

/-- The call has come to `turn`. -/
def set (k : Calls n) (i : Fin n) (turn : Turn) : Calls n :=
  { k with turn := Function.update k.turn i turn }

/-- **One step of one call.** -/
inductive Step (s : Shelf) (calls : Fin n → Errand) (k : Calls n) : Action n → Calls n → Prop where
  | refuse {i : Fin n} {e : StorageError} (hi : k.turn i = .waiting)
      (hpath : s.catalogPath (calls i).update.chapter.bookUrl = .error e) :
      Step s calls k (.refuse i) (k.set i (.ended (.error e)))
  | take {i : Fin n} {path : Text} (hi : k.turn i = .waiting)
      (hpath : s.catalogPath (calls i).update.chapter.bookUrl = .ok path) (hlock : k.lock = none) :
      Step s calls k (.take i)
        { k.set i (.working (program s (calls i)) (calls i).faults) with lock := some i }
  | work {i : Fin n} {x y : Program (Except StorageError Event)} {faults : List (Option Disk.Fault)}
      {v : Drive} (hi : k.turn i = .working x faults)
      (hx : x.advance ⟨k.disk, faults⟩ = some (y, v)) :
      Step s calls k (.work i) { k.set i (.working y v.faults) with disk := v.disk }
  | leave {i : Fin n} {r : Except StorageError Event} {faults : List (Option Disk.Fault)}
      (hi : k.turn i = .working (.done r) faults) :
      Step s calls k (.leave i) { k.set i (.ended r) with lock := none }

/-- **Steps of any calls in any order.** -/
inductive Path (s : Shelf) (calls : Fin n → Errand) (k : Calls n) :
    List (Action n) → Calls n → Prop where
  | nil : Path s calls k [] k
  | snoc {acts : List (Action n)} {act : Action n} {k' k'' : Calls n} (h : Path s calls k acts k')
      (hstep : Step s calls k' act k'') : Path s calls k (acts ++ [act]) k''

/-- The calls that obtained the lock, in their order. -/
def served (acts : List (Action n)) : List (Fin n) :=
  acts.filterMap fun
    | .take i => some i
    | _ => none

/-! ### What every step preserves -/

variable {s : Shelf} {calls : Fin n → Errand} {k k' : Calls n} {d : Disk}
  {acts : List (Action n)} {act : Action n}

/-- **The state of calls in turn**: those in `order` were carried out one after the other from the
disk `d`, but for the last one if it is at work. -/
inductive Serial (s : Shelf) (calls : Fin n → Errand) (d : Disk) (k : Calls n) :
    List (Fin n) → Prop where
  | free {order : List (Fin n)} (hlock : k.lock = none)
      (hidle : ∀ i x faults, k.turn i ≠ .working x faults)
      (hdisk : k.disk = (Errand.inTurn s d (order.map calls)).2)
      (hresults : order.map k.turn = (Errand.inTurn s d (order.map calls)).1.map .ended) :
      Serial s calls d k order
  | busy {order : List (Fin n)} {i : Fin n} {x : Program (Except StorageError Event)}
      {faults : List (Option Disk.Fault)} (hlock : k.lock = some i)
      (hi : k.turn i = .working x faults)
      (hidle : ∀ j y faults, j ≠ i → k.turn j ≠ .working y faults)
      (hdisk : Prod.map id Drive.disk (x.run ⟨k.disk, faults⟩) =
        (calls i).run s (Errand.inTurn s d (order.map calls)).2)
      (hresults : order.map k.turn = (Errand.inTurn s d (order.map calls)).1.map .ended) :
      Serial s calls d k (order ++ [i])

@[simp] theorem turn_set_self (k : Calls n) (i : Fin n) (turn : Turn) :
    (k.set i turn).turn i = turn := by simp [set]

theorem turn_set_of_ne (k : Calls n) {i j : Fin n} (h : j ≠ i) (turn : Turn) :
    (k.set i turn).turn j = k.turn j := by simp [set, h]

/-- The results of calls that have ended stay when another call goes on. -/
theorem map_turn_set {order : List (Fin n)} {rs : List (Except StorageError Event)} {i : Fin n}
    (h : order.map k.turn = rs.map .ended) (hi : ∀ r, k.turn i ≠ .ended r) (turn : Turn) :
    order.map (k.set i turn).turn = rs.map .ended := by
  rw [← h]
  refine List.map_congr_left fun j hj => turn_set_of_ne k ?_ turn
  rintro rfl
  have hended : k.turn j ∈ rs.map Turn.ended := h ▸ List.mem_map_of_mem hj
  obtain ⟨r, -, hr⟩ := List.mem_map.1 hended
  exact hi r hr.symm

/-- **A call that waits and ends** does not matter to those in turn. -/
theorem Serial.refuse {order : List (Fin n)} (h : Serial s calls d k order) {i : Fin n}
    (hi : k.turn i = .waiting) (r : Except StorageError Event) :
    Serial s calls d (k.set i (.ended r)) order := by
  have hother : ∀ j y faults, (k.set i (.ended r)).turn j = .working y faults →
      k.turn j = .working y faults := by
    intro j y faults hj
    by_cases hji : j = i
    · subst hji
      simp at hj
    · rwa [turn_set_of_ne k hji] at hj
  cases h with
  | free hlock hidle hdisk hresults =>
      exact .free hlock (fun j y faults hj => hidle j y faults (hother j y faults hj)) hdisk
        (map_turn_set hresults (by simp [hi]) _)
  | @busy _ i' x faults hlock hi' hidle hdisk hresults =>
      have hne : i' ≠ i := by
        rintro rfl
        simp [hi] at hi'
      exact .busy hlock ((turn_set_of_ne k hne _).trans hi')
        (fun j y faults hj hy => hidle j y faults hj (hother j y faults hy)) hdisk
        (map_turn_set hresults (by simp [hi]) _)

/-- **A call that obtains the lock** is the next one in turn. -/
theorem Serial.take {order : List (Fin n)} (h : Serial s calls d k order) {i : Fin n}
    (hi : k.turn i = .waiting) (hlock : k.lock = none) :
    Serial s calls d
      { k.set i (.working (program s (calls i)) (calls i).faults) with lock := some i }
      (order ++ [i]) := by
  cases h with
  | free _ hidle hdisk hresults =>
      refine .busy rfl (turn_set_self k i _) (fun j y faults hj hy => ?_) ?_
        (map_turn_set hresults (by simp [hi]) _)
      · exact hidle j y faults ((turn_set_of_ne k hj _).symm.trans hy)
      · rw [← hdisk]
        exact congrArg (Prod.map id Drive.disk) (Shelf.performs_update s _ _ _)
  | busy hlock' => simp [hlock] at hlock'

/-- **The call at work** is the last one in turn. -/
theorem Serial.busy_of_working {order : List (Fin n)} (h : Serial s calls d k order) {i : Fin n}
    {x : Program (Except StorageError Event)} {faults : List (Option Disk.Fault)}
    (hi : k.turn i = .working x faults) :
    ∃ before, order = before ++ [i] ∧ k.lock = some i ∧
      (∀ j y faults, j ≠ i → k.turn j ≠ .working y faults) ∧
      Prod.map id Drive.disk (x.run ⟨k.disk, faults⟩) =
        (calls i).run s (Errand.inTurn s d (before.map calls)).2 ∧
      before.map k.turn = (Errand.inTurn s d (before.map calls)).1.map .ended := by
  cases h with
  | free _ hidle => exact absurd hi (hidle i x faults)
  | @busy before i' x' faults' hlock hi' hidle hdisk hresults =>
      obtain rfl : i = i' := by
        by_contra hne
        exact hidle i x faults hne hi
      obtain ⟨rfl, rfl⟩ : x' = x ∧ faults' = faults := by simpa [hi, eq_comm] using hi'
      exact ⟨before, rfl, hlock, hidle, hdisk, hresults⟩

/-- **Every step preserves that calls are in turn.** -/
theorem Serial.step {order : List (Fin n)} (h : Serial s calls d k order)
    (hstep : Step s calls k act k') : Serial s calls d k' (order ++ served [act]) := by
  cases hstep with
  | refuse hi hpath =>
      rw [show served [Action.refuse _] = [] from rfl, List.append_nil]
      exact h.refuse hi _
  | take hi hpath hlock => exact h.take hi hlock
  | @work i x y faults v hi hx =>
      obtain ⟨before, rfl, hlock, hidle, hdisk, hresults⟩ := h.busy_of_working hi
      rw [show served [Action.work i] = [] from rfl, List.append_nil]
      refine .busy hlock (turn_set_self k i _) (fun j z faults hj hz => ?_) ?_
        (map_turn_set hresults (by simp [hi]) _)
      · exact hidle j z faults hj ((turn_set_of_ne k hj _).symm.trans hz)
      · rw [← hdisk, Program.run_of_advance hx]
  | @leave i r faults hi =>
      obtain ⟨before, rfl, hlock, hidle, hdisk, hresults⟩ := h.busy_of_working hi
      rw [show served [Action.leave i] = [] from rfl, List.append_nil]
      -- the work is done: what is left of it is its result
      have hrun : (calls i).run s (Errand.inTurn s d (before.map calls)).2 = (r, k.disk) :=
        hdisk.symm
      have hturn : Errand.inTurn s d ((before ++ [i]).map calls) =
          ((Errand.inTurn s d (before.map calls)).1 ++ [r], k.disk) := by
        rw [List.map_append, Errand.inTurn_append, List.map_singleton, Errand.inTurn_cons, hrun]
        rfl
      refine .free rfl (fun j z faults hz => ?_) (by rw [hturn]; rfl) ?_
      · by_cases hj : j = i
        · subst hj
          simp at hz
        · exact hidle j z faults hj ((turn_set_of_ne k hj _).symm.trans hz)
      · rw [hturn, List.map_append, List.map_append]
        exact congrArg₂ _ (map_turn_set hresults (by simp [hi]) _)
          (congrArg (· :: []) (turn_set_self k i _))

theorem served_append (acts acts' : List (Action n)) :
    served (acts ++ acts') = served acts ++ served acts' := List.filterMap_append

/-- **Calls at once are in turn all the time.** -/
theorem Path.serial (h : Path s calls { disk := d } acts k) :
    Serial s calls d k (served acts) := by
  induction h with
  | nil => exact .free rfl (by simp) rfl rfl
  | snoc _ hstep ih => exact served_append _ _ ▸ ih.step hstep

/-! ### Which calls are in turn -/

/-- A call that is in turn waits no more, and every other call that waits no more has ended with
what is wrong with its address. -/
structure Served (s : Shelf) (calls : Fin n → Errand) (k : Calls n) (order : List (Fin n)) :
    Prop where
  nodup : order.Nodup
  accepted : ∀ i ∈ order, k.turn i ≠ .waiting ∧
    ∃ path, s.catalogPath (calls i).update.chapter.bookUrl = .ok path
  refused : ∀ i ∉ order, k.turn i ≠ .waiting →
    ∃ e, s.catalogPath (calls i).update.chapter.bookUrl = .error e ∧ k.turn i = .ended (.error e)

/-- A call in turn goes on. -/
theorem Served.set {order : List (Fin n)} (h : Served s calls k order) {i : Fin n}
    (hi : i ∈ order) {turn : Turn} (hturn : turn ≠ .waiting) (hk : k'.turn = (k.set i turn).turn) :
    Served s calls k' order where
  nodup := h.nodup
  accepted j hj := by
    refine ⟨?_, (h.accepted j hj).2⟩
    rw [hk]
    by_cases hji : j = i
    · rwa [hji, turn_set_self]
    · rw [turn_set_of_ne k hji]
      exact (h.accepted j hj).1
  refused j hj := by
    rw [hk, turn_set_of_ne k fun hji : j = i => hj (hji ▸ hi)]
    exact h.refused j hj

theorem Served.mem_of_working {order : List (Fin n)} (h : Served s calls k order) {i : Fin n}
    {x : Program (Except StorageError Event)} {faults : List (Option Disk.Fault)}
    (hi : k.turn i = .working x faults) : i ∈ order := by
  by_contra hmem
  obtain ⟨e, -, he⟩ := h.refused i hmem (by simp [hi])
  simp [hi] at he

theorem Served.step {order : List (Fin n)} (h : Served s calls k order)
    (hstep : Step s calls k act k') : Served s calls k' (order ++ served [act]) := by
  cases hstep with
  | @refuse i e hi hpath =>
      rw [show Calls.served [Action.refuse i] = [] from rfl, List.append_nil]
      have hne : ∀ j ∈ order, j ≠ i := by
        rintro j hj rfl
        exact (h.accepted j hj).1 hi
      refine ⟨h.nodup, fun j hj => ?_, fun j hj => ?_⟩
      · rw [turn_set_of_ne k (hne j hj)]
        exact h.accepted j hj
      · by_cases hji : j = i
        · subst hji
          exact fun _ => ⟨e, hpath, turn_set_self k j _⟩
        · rw [turn_set_of_ne k hji]
          exact h.refused j hj
  | @take i path hi hpath hlock =>
      rw [show Calls.served [Action.take i] = [i] from rfl]
      have hmem : i ∉ order := fun hmem => (h.accepted i hmem).1 hi
      refine ⟨List.nodup_append.2 ⟨h.nodup, by simp, ?_⟩, fun j hj => ?_, fun j hj => ?_⟩
      · rintro j hj i' hi' rfl
        exact hmem (List.mem_singleton.1 hi' ▸ hj)
      · by_cases hji : j = i
        · subst hji
          exact ⟨by simp, path, hpath⟩
        · simp only [turn_set_of_ne k hji]
          exact h.accepted j ((List.mem_append.1 hj).resolve_right (by simpa using hji))
      · obtain ⟨hj, hji⟩ : j ∉ order ∧ j ≠ i := by simpa using hj
        simp only [turn_set_of_ne k hji]
        exact h.refused j hj
  | work hi hx =>
      rw [show Calls.served [Action.work _] = [] from rfl, List.append_nil]
      exact h.set (h.mem_of_working hi) (by simp) rfl
  | leave hi =>
      rw [show Calls.served [Action.leave _] = [] from rfl, List.append_nil]
      exact h.set (h.mem_of_working hi) (by simp) rfl

theorem Path.served (h : Path s calls { disk := d } acts k) :
    Served s calls k (served acts) := by
  induction h with
  | nil => exact ⟨.nil, by simp [Calls.served], by simp⟩
  | snoc _ hstep ih => exact served_append _ _ ▸ ih.step hstep

/-! ### Calls at once are calls in turn -/

/-- Of calls with these results, an errand of one of them. -/
theorem exists_of_mem_zip {order : List (Fin n)} {rs : List (Except StorageError Event)}
    (h : order.map k.turn = rs.map .ended) {a : Errand} {r : Except StorageError Event}
    (hmem : (a, r) ∈ (order.map calls).zip rs) :
    ∃ j ∈ order, calls j = a ∧ k.turn j = .ended r := by
  induction order generalizing rs with
  | nil => cases hmem
  | cons j order ih =>
      cases rs with
      | nil => cases hmem
      | cons r' rs =>
          obtain ⟨hj, hrest⟩ := List.cons_eq_cons.1 h
          rcases List.mem_cons.1 hmem with heq | hmem
          · obtain ⟨rfl, rfl⟩ := Prod.mk.inj heq
            exact ⟨j, List.mem_cons_self, rfl, hj⟩
          · obtain ⟨j', hj', ha⟩ := ih hrest hmem
            exact ⟨j', List.mem_cons_of_mem j hj', ha⟩

/-- **Later calls spare the entry of a call**: of those for the same file, the ones that succeeded are
about other indices, and the ones that failed did not when the file was open. -/
def Spared (s : Shelf) (calls : Fin n → Errand) (d : Disk) (k : Calls n) (i : Fin n)
    (later : List (Fin n)) : Prop :=
  ∀ j ∈ later, ∀ path path', s.catalogPath (calls i).update.chapter.bookUrl = .ok path →
    s.catalogPath (calls j).update.chapter.bookUrl = .ok path' → d.placeOf path' = d.placeOf path →
    ∀ r, k.turn j = .ended r → (calls j).Spares (calls i).update.chapter.index r

/-- **The entry that a call wrote is there at the end**, when the calls were carried out in turn and
the later ones spare it. -/
theorem lists_of_served (hkept : ∀ i, (calls i).update.moment.Kept) {before later : List (Fin n)}
    {i : Fin n} {event : Event}
    (hresults : (before ++ i :: later).map k.turn =
      (Errand.inTurn s d ((before ++ i :: later).map calls)).1.map .ended)
    (hi : k.turn i = .ended (.ok event)) (hspared : Spared s calls d k i later) :
    ∃ path, s.catalogPath (calls i).update.chapter.bookUrl = .ok path ∧
      (Errand.inTurn s d ((before ++ [i]).map calls)).2.Lists path (d.placeOf path)
        (calls i).update.chapter.index (calls i).update.entry.trimmed ∧
      (Errand.inTurn s d ((before ++ i :: later).map calls)).2.Lists path (d.placeOf path)
        (calls i).update.chapter.index (calls i).update.entry.trimmed := by
  have hbefore : ∀ a ∈ before.map calls, a.update.moment.Kept :=
    List.forall_mem_map.2 fun j _ => hkept j
  have hplace := Errand.placeOf_inTurn (s := s) (d := d) hbefore
  rcases hrun : (calls i).run s (Errand.inTurn s d (before.map calls)).2 with ⟨r, d'⟩
  have hturn : Errand.inTurn s d ((before ++ i :: later).map calls) =
      ((Errand.inTurn s d (before.map calls)).1 ++ r :: (Errand.inTurn s d' (later.map calls)).1,
        (Errand.inTurn s d' (later.map calls)).2) := by
    rw [List.map_append, Errand.inTurn_append, List.map_cons, Errand.inTurn_cons, hrun]
  have hthen : (Errand.inTurn s d ((before ++ [i]).map calls)).2 = d' := by
    rw [List.map_append, Errand.inTurn_append, List.map_singleton, Errand.inTurn_cons, hrun]
    rfl
  rw [hturn, List.map_append, List.map_append] at hresults
  obtain ⟨-, hresults⟩ := List.append_inj hresults (by simp [Errand.length_inTurn])
  obtain ⟨hr, hlater⟩ := List.cons_eq_cons.1 hresults
  obtain rfl : r = .ok event := by simpa [hi] using hr.symm
  obtain ⟨path, hpath, hlists⟩ := Disk.Lists.of_ok (hkept i) (Update.run_of_meet hrun)
  rw [hplace] at hlists
  refine ⟨path, hpath, hthen ▸ hlists, ?_⟩
  rw [hturn]
  refine hlists.inTurn (List.forall_mem_map.2 fun j _ => hkept j) hpath ?_
  intro a r ha path' hpath' hplace'
  obtain ⟨j, hj, rfl, hended⟩ := exists_of_mem_zip hlater ha
  refine hspared j hj path path' hpath hpath' ?_ r hended
  rw [← hplace', ← hplace path', ← Update.placeOf_meet (hkept i) path']
  exact congrArg (Disk.placeOf · path') (congrArg Prod.snd hrun)

/-- When all calls have ended, those that obtained the lock were carried out in turn. -/
theorem Serial.of_ended {order : List (Fin n)} (h : Serial s calls d k order)
    (hended : ∀ i, ∃ r, k.turn i = .ended r) :
    k.disk = (Errand.inTurn s d (order.map calls)).2 ∧
      order.map k.turn = (Errand.inTurn s d (order.map calls)).1.map .ended := by
  cases h with
  | free _ _ hdisk hresults => exact ⟨hdisk, hresults⟩
  | @busy _ i _ _ _ hi =>
      obtain ⟨r, hr⟩ := hended i
      simp [hi] at hr

/-- **What is promised of calls at once** that have all ended. -/
structure InTurn (s : Shelf) (calls : Fin n → Errand) (d : Disk) (k : Calls n)
    (order : List (Fin n)) : Prop where
  nodup : order.Nodup
  /-- The calls in turn are those whose address has a directory. -/
  mem_iff : ∀ i, i ∈ order ↔ ∃ path, s.catalogPath (calls i).update.chapter.bookUrl = .ok path
  /-- All others have ended with what is wrong with their address. -/
  refused : ∀ i e, s.catalogPath (calls i).update.chapter.bookUrl = .error e →
    k.turn i = .ended (.error e)
  /-- The disk is the one that the calls leave one after the other, each with its faults. -/
  disk : k.disk = (Errand.inTurn s d (order.map calls)).2
  results : order.map k.turn = (Errand.inTurn s d (order.map calls)).1.map .ended
  /-- If they meet no faults, it is that of the updates one after the other. -/
  unfaulted : (∀ i, (calls i).faults = []) →
    k.disk = (s.inTurn d (order.map fun i => (calls i).update)).2 ∧
      order.map k.turn = (s.inTurn d (order.map fun i => (calls i).update)).1.map .ended
  /-- An entry that was written and spared is there, and is read as it was right after the call that
  wrote it: as it was written, if nothing of that is lost when it is read. -/
  listed : (∀ i, (calls i).update.moment.Kept) → ∀ before i later event,
    order = before ++ i :: later → k.turn i = .ended (.ok event) → Spared s calls d k i later →
    ∃ (c c' : Catalog) (e : Entry),
      (on (s.loadCatalog (calls i).update.chapter.bookUrl)
        (Errand.inTurn s d ((before ++ [i]).map calls)).2).1 = .ok c ∧
      (on (s.loadCatalog (calls i).update.chapter.bookUrl) k.disk).1 = .ok c' ∧
      c.find? (·.index = (calls i).update.chapter.index) = some e ∧
      c'.find? (·.index = (calls i).update.chapter.index) = some e ∧
      ((calls i).update.entry.trimmed = (calls i).update.entry → e = (calls i).update.entry)

/-- **Calls at once are calls in turn.** -/
theorem inTurn_of_path (h : Path s calls { disk := d } acts k)
    (hended : ∀ i, ∃ r, k.turn i = .ended r) : InTurn s calls d k (served acts) := by
  have hserved := h.served
  obtain ⟨hdisk, hresults⟩ := h.serial.of_ended hended
  have hmem : ∀ i, i ∈ served acts ∨
      ∃ e, s.catalogPath (calls i).update.chapter.bookUrl = .error e ∧
        k.turn i = .ended (.error e) := by
    intro i
    obtain ⟨r, hr⟩ := hended i
    by_cases hi : i ∈ served acts
    · exact .inl hi
    · exact .inr (hserved.refused i hi (by simp [hr]))
  refine ⟨hserved.nodup, fun i => ⟨fun hi => (hserved.accepted i hi).2, ?_⟩, fun i e he => ?_,
    hdisk, hresults, fun hnone => ?_, fun hkept before i later event horder hi hspared => ?_⟩
  · rintro ⟨path, hpath⟩
    refine (hmem i).resolve_right ?_
    rintro ⟨e, he, -⟩
    simp [hpath] at he
  · rcases hmem i with hi | ⟨e', he', hturn⟩
    · obtain ⟨path, hpath⟩ := (hserved.accepted i hi).2
      simp [hpath] at he
    · obtain rfl : e = e' := by simpa [he] using he'
      exact hturn
  · have hfaults : ∀ a ∈ (served acts).map calls, a.faults = [] :=
      List.forall_mem_map.2 fun i _ => hnone i
    have hturn := Errand.inTurn_of_unfaulted (s := s) (d := d) hfaults
    rw [List.map_map] at hturn
    exact ⟨by rw [hdisk, hturn]; rfl, by rw [hresults, hturn]; rfl⟩
  · rw [hdisk, horder]
    rw [horder] at hresults
    obtain ⟨path, hpath, hthen, hlast⟩ := lists_of_served hkept hresults hi hspared
    obtain ⟨c, hload, hc⟩ := hthen.loaded hpath
    obtain ⟨c', hload', hc'⟩ := hlast.loaded hpath
    exact ⟨c, c', _, hload, hload', hc, hc', id⟩

/-! ### All calls come to an end -/

theorem Path.trans {acts' : List (Action n)} {k₀ : Calls n} (h : Path s calls k₀ acts k)
    (h' : Path s calls k acts' k') : Path s calls k₀ (acts ++ acts') k' := by
  induction h' with
  | nil => simpa using h
  | snoc _ hstep ih => exact (List.append_assoc acts _ _) ▸ ih.snoc hstep

/-- The call at work can go on to its end. -/
theorem exists_path_of_working {i : Fin n} (x : Program (Except StorageError Event))
    {faults : List (Option Disk.Fault)} (hi : k.turn i = .working x faults) :
    ∃ acts k', Path s calls k acts k' ∧ Calls.served acts = [] ∧ k'.lock = none ∧
      (∃ r, k'.turn i = .ended r) ∧ ∀ j, j ≠ i → k'.turn j = k.turn j := by
  induction x generalizing k faults with
  | done r =>
      exact ⟨_, _, Path.nil.snoc (.leave hi), rfl, rfl, ⟨r, turn_set_self k i _⟩,
        fun j hj => turn_set_of_ne k hj _⟩
  | _ =>
      next next ih =>
        obtain ⟨k₁, hstep, ⟨answer, later, hi₁⟩, hother₁⟩ : ∃ k₁, Path s calls k [.work i] k₁ ∧
            (∃ answer later, k₁.turn i = .working (next answer) later) ∧
              ∀ j, j ≠ i → k₁.turn j = k.turn j :=
          ⟨_, Path.nil.snoc (.work hi rfl), ⟨_, _, turn_set_self k i _⟩,
            fun j hj => turn_set_of_ne k hj _⟩
        obtain ⟨acts, k', hpath, hnone, hlock, hended, hother⟩ := ih answer hi₁
        exact ⟨_, k', hstep.trans hpath, hnone, hlock, hended,
          fun j hj => (hother j hj).trans (hother₁ j hj)⟩

/-- A call that waits can obtain the lock when that is free, and come to an end. -/
theorem exists_path_of_take {i : Fin n} {path : Text} (hi : k.turn i = .waiting)
    (hlock : k.lock = none) (hpath : s.catalogPath (calls i).update.chapter.bookUrl = .ok path) :
    ∃ acts k', Path s calls k acts k' ∧ Calls.served acts = [i] ∧ k'.lock = none ∧
      (∃ r, k'.turn i = .ended r) ∧ ∀ j, j ≠ i → k'.turn j = k.turn j := by
  obtain ⟨k₁, hstep, hi₁, hother₁⟩ : ∃ k₁, Path s calls k [.take i] k₁ ∧
      k₁.turn i = .working (program s (calls i)) (calls i).faults ∧
        ∀ j, j ≠ i → k₁.turn j = k.turn j :=
    ⟨_, Path.nil.snoc (.take hi hpath hlock), turn_set_self k i _,
      fun j hj => turn_set_of_ne k hj _⟩
  obtain ⟨acts, k', hpath', hnone, hlock', hended, hother⟩ := exists_path_of_working _ hi₁
  refine ⟨_, k', hstep.trans hpath', ?_, hlock', hended,
    fun j hj => (hother j hj).trans (hother₁ j hj)⟩
  rw [served_append, hnone]
  rfl

/-- A call that waits can come to an end when the lock is free. -/
theorem exists_path_of_waiting {i : Fin n} (hi : k.turn i = .waiting) (hlock : k.lock = none) :
    ∃ acts k', Path s calls k acts k' ∧ k'.lock = none ∧ (∃ r, k'.turn i = .ended r) ∧
      ∀ j, j ≠ i → k'.turn j = k.turn j := by
  cases hpath : s.catalogPath (calls i).update.chapter.bookUrl with
  | error e =>
      exact ⟨_, _, Path.nil.snoc (.refuse hi hpath), hlock, ⟨_, turn_set_self k i _⟩,
        fun j hj => turn_set_of_ne k hj _⟩
  | ok path =>
      obtain ⟨acts, k', hpath', -, hrest⟩ := exists_path_of_take hi hlock hpath
      exact ⟨acts, k', hpath', hrest⟩

/-- **All calls can come to an end**, of whatever books and from whatever disk. -/
theorem exists_ended (s : Shelf) (calls : Fin n → Errand) (d : Disk) :
    ∃ acts k, Path s calls { disk := d } acts k ∧ ∀ i, ∃ r, k.turn i = .ended r := by
  have hlist : ∀ l : List (Fin n), ∃ acts k, Path s calls { disk := d } acts k ∧ k.lock = none ∧
      ∀ i, (∃ r, k.turn i = .ended r) ∨ k.turn i = .waiting ∧ i ∉ l := by
    intro l
    induction l with
    | nil => exact ⟨[], _, .nil, rfl, fun i => .inr ⟨rfl, by simp⟩⟩
    | cons i l ih =>
        obtain ⟨acts, k, hpath, hlock, hturn⟩ := ih
        rcases hturn i with hi | ⟨hi, -⟩
        · refine ⟨acts, k, hpath, hlock, fun j => (hturn j).imp_right fun ⟨hj, hmem⟩ => ⟨hj, ?_⟩⟩
          obtain ⟨r, hr⟩ := hi
          rintro (_ | ⟨_, hl⟩)
          · simp [hr] at hj
          · exact hmem hl
        · obtain ⟨acts', k', hpath', hlock', hended, hother⟩ := exists_path_of_waiting hi hlock
          refine ⟨_, k', hpath.trans hpath', hlock', fun j => ?_⟩
          by_cases hji : j = i
          · exact .inl (hji ▸ hended)
          · rw [hother j hji]
            exact (hturn j).imp_right fun ⟨hj, hmem⟩ => ⟨hj, by simp [hji, hmem]⟩
  obtain ⟨acts, k, hpath, -, hturn⟩ := hlist (List.finRange n)
  exact ⟨acts, k, hpath, fun i => (hturn i).resolve_right fun h => h.2 (List.mem_finRange i)⟩

/-! ### Two calls at once -/

/-- An update of the second chapter of a book. -/
def second : Update := ⟨Shelf.leapDay, { bookUrl := "x://h/1", index := 1 }⟩

/-- A call that gives the first chapter of a book a title, and one for the second chapter. -/
def pair (t : Text) (faults : List (Option Disk.Fault)) : Fin 2 → Errand :=
  ![⟨Shelf.titled t, []⟩, ⟨second, faults⟩]

theorem directory_second : ({} : Shelf).directory second.chapter.bookUrl = .ok ".folio/books/h/1" :=
  Shelf.directory_titled []

theorem kept_pair (t : Text) (faults : List (Option Disk.Fault)) :
    ∀ i, (pair t faults i).update.moment.Kept :=
  Fin.forall_fin_two.2 ⟨Shelf.kept_titled t, Shelf.kept_titled []⟩

/-- The two calls may obtain the lock one after the other. -/
theorem exists_path_pair (t : Text) (faults : List (Option Disk.Fault)) :
    ∃ acts k, Path {} (pair t faults) { disk := {} } acts k ∧ (∀ i, ∃ r, k.turn i = .ended r) ∧
      served acts = [0, 1] := by
  have hfree : ({ disk := {} } : Calls 2).turn 0 = .waiting := rfl
  have hfirst : ({} : Shelf).catalogPath (pair t faults 0).update.chapter.bookUrl =
      .ok (Shelf.join ".folio/books/h/1" Shelf.catalogName) :=
    Shelf.catalogPath_eq_ok (Shelf.directory_titled t)
  have hsecond : ({} : Shelf).catalogPath (pair t faults 1).update.chapter.bookUrl =
      .ok (Shelf.join ".folio/books/h/1" Shelf.catalogName) :=
    Shelf.catalogPath_eq_ok directory_second
  obtain ⟨acts, k, h, hserved, hlock, hended, hother⟩ := exists_path_of_take hfree rfl hfirst
  obtain ⟨acts', k', h', hserved', -, hended', hother'⟩ :=
    exists_path_of_take (hother 1 (by decide)) hlock hsecond
  refine ⟨_, k', h.trans h', Fin.forall_fin_two.2 ⟨?_, hended'⟩, ?_⟩
  · rw [hother' 0 (by decide)]
    exact hended
  · rw [served_append, hserved, hserved']
    rfl

/-- The first of the two calls succeeds, and the second one finds its entry. -/
theorem exists_run_pair (t : Text) (faults : List (Option Disk.Fault)) : ∃ event d p,
    Errand.inTurn {} {} ([0, 1].map (pair t faults)) =
      ([.ok event, (second.meet {} faults d).1], (second.meet {} faults d).2) ∧
    d.Lists (Shelf.join ".folio/books/h/1" Shelf.catalogName) p 0
      (Shelf.titled t).entry.trimmed := by
  obtain ⟨event, d, hrun⟩ := Shelf.run_titled t
  obtain ⟨path, hpath, hlists⟩ := Disk.Lists.of_ok (Shelf.kept_titled t) hrun
  have hpath' := Shelf.catalogPath_eq_ok (Shelf.directory_titled t)
  obtain rfl := Except.ok.inj (hpath'.symm.trans hpath)
  have hfirst : (pair t faults 0).run {} {} = (.ok event, d) := (Update.meet_nil _ _ _).trans hrun
  have hsecond : (pair t faults 1).run {} d = second.meet {} faults d := rfl
  refine ⟨event, d, _, ?_, hlists⟩
  rw [List.map_cons, Errand.inTurn_cons, hfirst, List.map_singleton, Errand.inTurn_cons, hsecond,
    Errand.inTurn_nil]

/-- A call that fails takes nothing from one that has succeeded. -/
theorem inTurn_of_path_pair :
    let calls := pair "One" [some { reason := "Input/output error (os error 5)" }]
    ∃ acts k, Path {} calls { disk := {} } acts k ∧ (∀ i, ∃ r, k.turn i = .ended r) ∧
      ∃ c : Catalog, (on (({} : Shelf).loadCatalog "x://h/1") k.disk).1 = .ok c ∧
        c.find? (·.index = 0) = some (calls 0).update.entry := by
  intro calls
  obtain ⟨acts, k, hpath, hended, hserved⟩ := exists_path_pair "One" _
  have hturn : InTurn {} calls {} k (served acts) := inTurn_of_path hpath hended
  obtain ⟨event, d, p, hrun, -⟩ := exists_run_pair "One" _
  have hresults := hturn.results
  rw [hserved, hrun] at hresults
  have hfirst : k.turn 0 = .ended (.ok event) := (List.cons_eq_cons.1 hresults).1
  have hspared : Spared {} calls {} k 0 [1] := by
    intro j hj path path' _ _ _ r _
    obtain rfl := List.mem_singleton.1 hj
    cases r with
    | ok _ => exact show (1 : UInt32) ≠ 0 by decide
    | error e =>
        intro f hf
        obtain rfl := Option.some.inj (List.mem_singleton.1 hf)
        rfl
  obtain ⟨-, c, e, -, hload, -, hfind, he⟩ :=
    hturn.listed (kept_pair _ _) [] 0 [1] event hserved hfirst hspared
  obtain rfl := he (by decide)
  exact ⟨acts, k, hpath, hended, c, hload, hfind⟩

/-- **An entry is not always there at the end as it was written.**  It is lost with its file if the
disk is full when a later call has emptied that; and a blank character in front of its title is lost
when a later call reads the file and writes it anew. -/
theorem loses :
    (∃ acts k event, Path {} (pair "One" [none, none, some Disk.full]) { disk := {} } acts k ∧
      (∀ i, ∃ r, k.turn i = .ended r) ∧ served acts = [0, 1] ∧ k.turn 0 = .ended (.ok event) ∧
      ∀ c, (on (({} : Shelf).loadCatalog "x://h/1") k.disk).1 ≠ .ok c) ∧
    ∃ acts k event event', Path {} (pair " x" []) { disk := {} } acts k ∧ served acts = [0, 1] ∧
      k.turn 0 = .ended (.ok event) ∧ k.turn 1 = .ended (.ok event') ∧
      ∃ c : Catalog, (on (({} : Shelf).loadCatalog "x://h/1") k.disk).1 = .ok c ∧
        (pair " x" [] 0).update.entry ∉ c := by
  have hcatalog := Shelf.catalogPath_eq_ok directory_second
  constructor
  · obtain ⟨acts, k, hpath, hended, hserved⟩ := exists_path_pair "One" [none, none, some Disk.full]
    obtain ⟨hdisk, hresults⟩ := hpath.serial.of_ended hended
    obtain ⟨event, d, p, hrun, hlists⟩ := exists_run_pair "One" [none, none, some Disk.full]
    obtain ⟨c, hc, -⟩ := hlists.entry
    rw [hserved, hrun] at hresults hdisk
    rw [Update.meet_full directory_second hlists.resolve hc] at hdisk
    refine ⟨acts, k, event, hpath, hended, hserved, (List.cons_eq_cons.1 hresults).1, ?_⟩
    rw [hdisk]
    exact hlists.lost hcatalog
  · obtain ⟨acts, k, hpath, hended, hserved⟩ := exists_path_pair " x" []
    obtain ⟨hdisk, hresults⟩ := hpath.serial.of_ended hended
    obtain ⟨event, d, p, hrun, hlists⟩ := exists_run_pair " x" []
    obtain ⟨c, hc, -⟩ := hlists.entry
    obtain ⟨event', d', hrun'⟩ := Update.run_eq_ok directory_second hlists.resolve hc
    rw [hserved, hrun, Update.meet_nil, hrun'] at hresults hdisk
    obtain ⟨hfirst, hrest⟩ := List.cons_eq_cons.1 hresults
    obtain ⟨path, c', hpath', -, hresolve, hcatalog', -⟩ :=
      Update.catalogAt?_of_ok (kept_pair " x" [] 1) hrun'
    have hdisk : k.disk = d' := hdisk
    have hload := Shelf.loadCatalog_eq_ok_iff_catalogAt?.2 ⟨path, _, hpath', hresolve, hcatalog'⟩
    rw [← hdisk] at hload
    refine ⟨acts, k, event, event', hpath, hserved, hfirst, (List.cons_eq_cons.1 hrest).1, _, hload,
      fun hmem => ?_⟩
    -- what was read and written again has no blank character at an end
    obtain ⟨e, -, he⟩ := List.mem_map.1 hmem
    have htrimmed := congrArg Entry.trimmed he
    rw [Entry.trimmed_trimmed, he] at htrimmed
    revert htrimmed
    decide

end Calls

end ChapterAssembly
