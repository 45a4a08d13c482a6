/-
**Disks that grow.**

Making directories and writing a file take nothing away: what was a directory stays one, and no file
changes but the one that is written.  So a path that led somewhere leads there for ever, on every
disk, whether everything on it is in a directory or not.

Main definitions:

* `Disk.Grows` — a disk keeps its directories, and its files but for one place.

Main results:

* `Disk.Grows.resolve` — **a path that leads somewhere still leads there**;
* `Disk.write_eq_ok_iff` — what a file that is written does to a disk;
* `Disk.grows_of_store_error` — failing to store a file changes no file;
* `Disk.file_of_store` — **a file that was stored is there**;
* `Disk.makeDirectories_of_resolve`, `Disk.store_of_resolve` — where a path leads already, nothing
  need be made, and a file can be stored.
-/

import ChapterAssembly.Proofs.Storing

set_option relaxedAutoImplicit false
set_option autoImplicit false

namespace ChapterAssembly

namespace Disk

variable {d d' d'' : Disk} {p q w : Place} {path directory : Text} {ns : List Text} {bytes : Bytes}

/-- **A disk keeps its directories, and its files** but for what is at the place `w`. -/
structure Grows (w : Place) (d d' : Disk) : Prop where
  working : d'.working = d.working
  directory : ∀ p, d.node? p = some .directory → d'.node? p = some .directory
  file : ∀ q bytes, q ≠ w → (d'.node? q = some (.file bytes) ↔ d.node? q = some (.file bytes))

namespace Grows

theorem refl (w : Place) (d : Disk) : Grows w d d := ⟨rfl, fun _ h => h, fun _ _ _ => Iff.rfl⟩

theorem trans (h : Grows w d d') (h' : Grows w d' d'') : Grows w d d'' where
  working := h'.working.trans h.working
  directory p hp := h'.directory p (h.directory p hp)
  file q bytes hq := (h'.file q bytes hq).trans (h.file q bytes hq)

theorem walk (h : Grows w d d') (hw : d.walk p ns = .ok q) : d'.walk p ns = .ok q := by
  induction ns generalizing p with
  | nil => exact hw
  | cons x ns ih =>
      obtain ⟨hdir, hfit, hrest⟩ := walk_cons_eq_ok_iff.1 hw
      exact walk_cons_eq_ok_iff.2 ⟨h.directory p hdir, hfit, ih hrest⟩

/-- **A path that leads somewhere still leads there.** -/
theorem resolve (h : Grows w d d') (hp : d.resolve path = .ok p) : d'.resolve path = .ok p := by
  unfold Disk.resolve at hp ⊢
  split
  · next hnil => simp [hnil] at hp
  · next hnil =>
      rw [if_neg hnil] at hp
      rw [start, h.working]
      exact h.walk hp

theorem placeOf (h : Grows w d d') (path : Text) : d'.placeOf path = d.placeOf path :=
  placeOf_congr h.working path

end Grows

/-! ### Directories -/

theorem ne_nil_of_node? {n : Option DiskNode} (hn : n ≠ some .directory) (h : d.node? p = n) :
    p ≠ [] := by
  rintro rfl
  exact hn (h ▸ node?_root d)

/-- A directory where nothing was, or something already. -/
theorem grows_directory (w q : Place) (d : Disk) :
    Grows w d (if (d.node? q).isSome then d else d.put q .directory) := by
  split
  · exact Grows.refl w d
  · next hnone =>
      have hnone : d.node? q = none := by simpa using hnone
      have hq : q ≠ [] := ne_nil_of_node? (by simp) hnone
      refine ⟨rfl, fun p hp => ?_, fun p bytes _ => ?_⟩
      · rw [node?_put d q p _ hq]
        split
        · rfl
        · exact hp
      · rw [node?_put d q p _ hq]
        split
        · next hp => simp [hp, hnone]
        · exact Iff.rfl

theorem grows_makeFrom (w : Place) (d : Disk) (p : Place) (ns : List Text) :
    Grows w d (d.makeFrom p ns).2 := by
  induction ns generalizing d p with
  | nil =>
      unfold makeFrom
      split <;> exact Grows.refl w d
  | cons x ns ih =>
      rw [makeFrom]
      split
      · exact Grows.refl w d
      · exact (grows_directory w _ d).trans (ih _ _)

theorem grows_makeDirectories (w : Place) (d : Disk) (path : Text) :
    Grows w d (d.makeDirectories path).2 := grows_makeFrom w d _ _

/-! ### Files -/

/-- **A file is written where no directory is.** -/
theorem write_eq_ok_iff : d.write path bytes = .ok d' ↔
    ∃ p, d.resolve path = .ok p ∧ d.node? p ≠ some .directory ∧ d' = d.put p (.file bytes) := by
  unfold write
  cases hp : d.resolve path with
  | error e => simp [bind, Except.bind]
  | ok p =>
      cases hn : d.node? p with
      | none => simp [bind, Except.bind, hn, eq_comm]
      | some n => cases n <;> simp [bind, Except.bind, hn, eq_comm]

theorem grows_put (hp : d.node? p ≠ some .directory) (bytes : Bytes) :
    Grows p d (d.put p (.file bytes)) := by
  have hne : p ≠ [] := ne_nil_of_node? hp rfl
  refine ⟨rfl, fun q hq => ?_, fun q bytes' hq => ?_⟩
  · rw [node?_put d p q _ hne, if_neg fun h : q = p => hp (h ▸ hq), hq]
  · rw [node?_put d p q _ hne, if_neg hq]

/-- A file that was written is where its path leads. -/
theorem file_of_write (h : d.write path bytes = .ok d') : Grows (d.placeOf path) d d' ∧
    d'.resolve path = .ok (d.placeOf path) ∧
      d'.node? (d.placeOf path) = some (.file bytes) := by
  obtain ⟨p, hp, hdir, rfl⟩ := write_eq_ok_iff.1 h
  have hgrows := grows_put hdir bytes
  obtain rfl := eq_placeOf_of_resolve hp
  exact ⟨hgrows, hgrows.resolve hp, by
    rw [node?_put d _ _ _ (ne_nil_of_node? hdir rfl), if_pos rfl]⟩

/-- Failing to store a file touches no file. -/
theorem grows_of_store_error {e : DiskError} (h : d.store directory path bytes = (.error e, d'))
    (w : Place) : Grows w d d' := by
  have hmade := grows_makeDirectories w d directory
  unfold store at h
  split at h
  · next e' d₁ h₁ =>
      rw [h₁] at hmade
      cases h
      exact hmade
  · next u d₁ h₁ =>
      rw [h₁] at hmade
      split at h <;> cases h
      exact hmade

/-- **A file that was stored is there**, and no other was touched. -/
theorem file_of_store {u : Unit} (h : d.store directory path bytes = (.ok u, d')) :
    Grows (d.placeOf path) d d' ∧ d'.resolve path = .ok (d.placeOf path) ∧
      d'.node? (d.placeOf path) = some (.file bytes) := by
  have hmade := grows_makeDirectories (d.placeOf path) d directory
  unfold store at h
  split at h
  · cases h
  · next u d₁ h₁ =>
      rw [h₁] at hmade
      split at h
      · next d₂ h₂ =>
          cases h
          have hwritten := file_of_write h₂
          rw [hmade.placeOf] at hwritten
          exact ⟨hmade.trans hwritten.1, hwritten.2⟩
      · cases h

/-! ### Where a path leads already -/

/-- Directories that are there need not be made: only what comes after them is. -/
theorem makeFrom_append (h : d.walk p ns = .ok q) (hq : d.node? q = some .directory)
    (ms : List Text) : d.makeFrom p (ns ++ ms) = d.makeFrom q ms := by
  induction ns generalizing p with
  | nil =>
      obtain rfl := Except.ok.inj h
      rfl
  | cons x ns ih =>
      obtain ⟨hdir, hfit, hrest⟩ := walk_cons_eq_ok_iff.1 h
      have hthere : (d.node? (onward p x)).isSome = true := by
        cases ns with
        | nil =>
            obtain rfl := Except.ok.inj hrest
            rw [hq]
            rfl
        | cons y ns => rw [(walk_cons_eq_ok_iff.1 hrest).1]; rfl
      have hstep : (d.enter p >>= fun _ => step p x) = .ok (onward p x) := by
        rw [show d.enter p = .ok () from enter_eq_ok_iff.2 hdir]
        exact step_eq_ok_iff.2 ⟨hfit, rfl⟩
      rw [List.cons_append, makeFrom, hstep]
      simp only [hthere, if_true]
      exact ih hrest

theorem makeFrom_of_walk (h : d.walk p ns = .ok q) (hq : d.node? q = some .directory) :
    d.makeFrom p ns = (.ok (), d) := by
  have hmade := makeFrom_append h hq []
  rwa [List.append_nil, makeFrom, hq] at hmade

/-- Where a path leads already, the directories on it need not be made. -/
theorem makeDirectories_of_resolve {name : Text} (ho : Ordinary name)
    (h : d.resolve (Shelf.join directory name) = .ok p) :
    d.makeDirectories directory = (.ok (), d) := by
  have hnames := names_join ho.ne_nil ho.no_slash directory
  rw [resolve_eq_walk (ne_nil_of_names hnames), hnames, start_join d ho.no_slash] at h
  obtain ⟨q, hq, hdir, -, -⟩ := (walk_concat_eq_ok_iff ho).1 h
  refine makeFrom_of_walk (q := q) ?_ hdir
  rw [names_eq, walk_append, hq]
  split
  · -- a slash at the end stands for the directory itself
    exact walk_cons_eq_ok_iff.2 ⟨hdir, .inl rfl, rfl⟩
  · rfl

/-- **Where a path leads already, a file can be stored**, in place of no directory. -/
theorem store_of_resolve {name : Text} (ho : Ordinary name)
    (h : d.resolve (Shelf.join directory name) = .ok p) (hp : d.node? p ≠ some .directory)
    (bytes : Bytes) : d.store directory (Shelf.join directory name) bytes =
      (.ok (), d.put p (.file bytes)) := by
  rw [store, makeDirectories_of_resolve ho h]
  simp only [write_eq_ok_iff.2 ⟨p, h, hp, rfl⟩]

end Disk

end ChapterAssembly
