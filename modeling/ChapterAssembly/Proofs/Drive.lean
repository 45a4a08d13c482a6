/-
**Work that meets faults.**

On a disk that fails, storing and loading do what they do on one that does not, until they meet a
fault; there they stop, and pass its reason on.  So work that succeeds has met no fault, and what is
found out about disks that do not fail is true of those that do, but for the reasons that they give.

Main definitions:

* `Storing.onDrive`, `Storing.meet` — some work carried out on a disk that fails;
* `Storing.Follows` — work that does what it does on a disk that does not fail, or stops at a fault;
* `Storing.Gives` — what comes of some work, unless it meets a fault;
* `Storing.Peeks` — work that leaves the disk as it is.

Main results:

* `Storing.Follows.bind` — work that follows is made of such work;
* `Storing.Follows.on_of_meet` — **work that succeeds has met no fault**;
* `Storing.Follows.gives_iff` — what comes of work is what comes of it without faults;
* `Shelf.follows_save`, `Shelf.follows_load`, `Shelf.follows_has`, `Shelf.follows_update`,
  `Shelf.follows_loadCatalog` — all that a shelf does.
-/

import ChapterAssembly.Disk.Fault
import ChapterAssembly.Proofs.Storing

set_option relaxedAutoImplicit false
set_option autoImplicit false

namespace ChapterAssembly

/-! ### Accesses -/

namespace Drive

variable {α : Type} {v : Drive} {f : Disk.Fault} {answer : StateM Disk (Except DiskError α)}
  {leaves : Disk.Fault → Disk → Disk}

theorem access_of_none (h : v.faults.headD none = none) : access answer leaves v =
    ((answer v.disk).1, ⟨(answer v.disk).2, v.faults.tail⟩) := by
  rw [access, h]

theorem access_of_some (h : v.faults.headD none = some f) : access answer leaves v =
    (.error f.error, ⟨leaves f v.disk, v.faults.tail⟩) := by
  rw [access, h]

end Drive

namespace Storing

variable {α β : Type}

/-! ### Work on a disk that fails -/

/-- Some work carried out on a disk that fails. -/
def onDrive (work : Storing (StateM Drive) α) (v : Drive) : Except StorageError α × Drive :=
  ExceptT.run work v

/-- **Some work whose accesses meet faults**: what comes of it, and the disk that is left. -/
def meet (work : Storing (StateM Drive) α) (faults : List (Option Disk.Fault)) (d : Disk) :
    Except StorageError α × Disk :=
  Prod.map id Drive.disk (onDrive work ⟨d, faults⟩)

variable {v : Drive} {d d' : Disk} {faults : List (Option Disk.Fault)}

theorem onDrive_lift (x : Except StorageError α) :
    onDrive (liftM x : Storing (StateM Drive) α) v = (x, v) := by
  cases x <;> rfl

theorem onDrive_bind (x : Storing (StateM Drive) α) (f : α → Storing (StateM Drive) β) :
    onDrive (x >>= f) v =
      match onDrive x v with
      | (.ok a, v) => onDrive (f a) v
      | (.error e, v) => (.error e, v) := by
  rw [onDrive, run_bind, onDrive]
  obtain ⟨_ | _, _⟩ := ExceptT.run x v <;> rfl

theorem onDrive_ofDisk (work : StateM Drive (Except DiskError α)) :
    onDrive (ofDisk work) v = ((work v).1.mapError fun e => .io e.message, (work v).2) := rfl

/-- The text of a file that need not be there. -/
theorem onDrive_readText? (path : Text) :
    onDrive (readText? path) v =
      (match v.faults.headD none with
        | some f => .error (.io f.reason)
        | none => (on (readText? path) v.disk).1, ⟨v.disk, v.faults.tail⟩) := by
  have hread : (Files.readText path : StateM Drive _) v =
      (match v.faults.headD none with
        | some f => .error f.error
        | none => v.disk.readText path, ⟨v.disk, v.faults.tail⟩) := by
    rw [Files.readText_run]
    obtain ⟨d, _ | ⟨_ | f, later⟩⟩ := v <;> rfl
  rw [on_readText?, onDrive, run_readText?, hread]
  cases v.faults.headD none with
  | some f => rfl
  | none =>
      cases v.disk.readText path with
      | ok t => rfl
      | error e => cases e <;> rfl

/-! ### Work that stops at a fault -/

/-- **Work does what it does on a disk that does not fail**, and leaves the last of the faults; or it
stops at a fault, and passes its reason on. -/
def Follows (x : Storing (StateM Drive) α) (y : Storing (StateM Disk) α) : Prop :=
  ∀ v : Drive,
    (∃ later, later <:+ v.faults ∧ onDrive x v = ((on y v.disk).1, ⟨(on y v.disk).2, later⟩)) ∨
    ∃ f, some f ∈ v.faults ∧ (onDrive x v).1 = .error (.io f.reason)

theorem follows_lift (r : Except StorageError α) :
    Follows (liftM r : Storing (StateM Drive) α) (liftM r : Storing (StateM Disk) α) := by
  intro v
  rw [onDrive_lift, on_lift]
  exact .inl ⟨v.faults, List.suffix_refl _, rfl⟩

theorem follows_access (answer : StateM Disk (Except DiskError α))
    (leaves : Disk.Fault → Disk → Disk) :
    Follows (ofDisk (Drive.access answer leaves)) (ofDisk answer) := by
  rintro ⟨d, _ | ⟨_ | f, later⟩⟩
  · exact .inl ⟨[], List.suffix_refl _, rfl⟩
  · exact .inl ⟨later, List.suffix_cons _ _, rfl⟩
  · exact .inr ⟨f, List.mem_cons_self, rfl⟩

theorem follows_readText? (path : Text) : Follows (readText? path) (readText? path) := by
  intro v
  have hdisk : (on (readText? path) v.disk).2 = v.disk := by rw [on_readText?]
  rw [onDrive_readText?, hdisk]
  obtain ⟨d, _ | ⟨_ | f, later⟩⟩ := v
  · exact .inl ⟨[], List.suffix_refl _, rfl⟩
  · exact .inl ⟨later, List.suffix_cons _ _, rfl⟩
  · exact .inr ⟨f, List.mem_cons_self, rfl⟩

namespace Follows

variable {x : Storing (StateM Drive) α} {y : Storing (StateM Disk) α}

/-- **Work that follows is made of such work.** -/
theorem bind {f : α → Storing (StateM Drive) β} {g : α → Storing (StateM Disk) β}
    (hx : Follows x y) (hf : ∀ a, Follows (f a) (g a)) : Follows (x >>= f) (y >>= g) := by
  intro v
  rw [onDrive_bind, on_bind]
  rcases hx v with ⟨later, hlater, h⟩ | ⟨f', hmem, h⟩
  · rw [h]
    obtain ⟨r, d⟩ := on y v.disk
    cases r with
    | error e => exact .inl ⟨later, hlater, rfl⟩
    | ok a =>
        rcases hf a ⟨d, later⟩ with ⟨later', hlater', h'⟩ | ⟨f', hmem, h'⟩
        · exact .inl ⟨later', hlater'.trans hlater, h'⟩
        · exact .inr ⟨f', hlater.subset hmem, h'⟩
  · rcases hrun : onDrive x v with ⟨r, v'⟩
    obtain rfl : r = .error (.io f'.reason) := by rw [← h, hrun]
    exact .inr ⟨f', hmem, rfl⟩

/-- Work meets no fault, or stops at one of those that are there. -/
theorem meet_eq_or (h : Follows x y) (faults : List (Option Disk.Fault)) (d : Disk) :
    meet x faults d = on y d ∨
      ∃ f, some f ∈ faults ∧ (meet x faults d).1 = .error (.io f.reason) := by
  refine (h ⟨d, faults⟩).imp ?_ id
  rintro ⟨later, -, hx⟩
  rw [meet, hx]
  rfl

/-- Without faults work does what it does on a disk that does not fail. -/
theorem meet_nil (h : Follows x y) (d : Disk) : meet x [] d = on y d :=
  (h.meet_eq_or [] d).resolve_right (by simp)

/-- **Work that succeeds has met no fault.** -/
theorem on_of_meet (h : Follows x y) {a : α} (hx : meet x faults d = (.ok a, d')) :
    on y d = (.ok a, d') := by
  rcases h.meet_eq_or faults d with hy | ⟨f, -, hy⟩
  · exact hy.symm.trans hx
  · simp [hx] at hy

end Follows

/-- **What comes of some work**, unless it meets a fault and passes its reason on. -/
def Gives (work : Storing (StateM Drive) α) (d : Disk) (r : Except StorageError α) : Prop :=
  ∀ faults, (meet work faults d).1 = r ∨
    ∃ f, some f ∈ faults ∧ (meet work faults d).1 = .error (.io f.reason)

/-- **What comes of work is what comes of it without faults.** -/
theorem Follows.gives_iff {x : Storing (StateM Drive) α} {y : Storing (StateM Disk) α}
    (h : Follows x y) {r : Except StorageError α} : Gives x d r ↔ (on y d).1 = r := by
  constructor
  · intro hx
    rw [← h.meet_nil d]
    exact (hx []).resolve_right (by simp)
  · rintro rfl faults
    exact (h.meet_eq_or faults d).imp_left fun hx => by rw [hx]

/-! ### Work that leaves the disk as it is -/

/-- **Work leaves the disk as it is**, whatever faults it meets. -/
def Peeks (work : Storing (StateM Drive) α) : Prop := ∀ v, (onDrive work v).2.disk = v.disk

theorem peeks_lift (r : Except StorageError α) : Peeks (liftM r : Storing (StateM Drive) α) := by
  intro v
  rw [onDrive_lift]

theorem peeks_readText? (path : Text) : Peeks (readText? path) := by
  intro v
  rw [onDrive_readText?]

theorem peeks_isThere (path : Text) : Peeks (ofDisk (Files.isThere path)) := by
  rintro ⟨d, _ | ⟨_ | f, later⟩⟩ <;> rfl

theorem Peeks.bind {x : Storing (StateM Drive) α} {f : α → Storing (StateM Drive) β}
    (hx : Peeks x) (hf : ∀ a, Peeks (f a)) : Peeks (x >>= f) := by
  intro v
  have hdisk := hx v
  rw [onDrive_bind]
  rcases hrun : onDrive x v with ⟨r, v'⟩
  rw [hrun] at hdisk
  cases r with
  | error e => exact hdisk
  | ok a => exact (hf a v').trans hdisk

end Storing

/-! ### What a shelf does -/

namespace Shelf

open Storing

variable (s : Shelf)

theorem follows_save (book : Book) (c : Chapter) (content : Text) :
    Follows (s.save book c content) (s.save book c content) := by
  refine (follows_lift _).bind fun path => (follows_lift _).bind fun directory => ?_
  exact (follows_access _ _).bind fun _ => (follows_access _ _).bind fun _ => follows_lift (.ok _)

theorem follows_load (c : Chapter) : Follows (s.load c) (s.load c) := by
  refine (follows_lift _).bind fun path => (follows_readText? path).bind fun t => ?_
  cases t with
  | some t => exact follows_lift (.ok t)
  | none => exact follows_lift (.error _)

theorem follows_has (c : Chapter) : Follows (s.has c) (s.has c) :=
  (follows_lift _).bind fun _ => follows_access _ _

theorem follows_readCatalog (path : Text) : Follows (readCatalog path) (readCatalog path) := by
  refine (follows_readText? path).bind fun t => ?_
  cases t with
  | none => exact follows_lift (.ok _)
  | some t =>
      simp only
      split
      · exact follows_lift (.ok _)
      · exact follows_lift (.error _)

theorem follows_update (now : Timestamp) (c : Chapter) :
    Follows (s.update now c) (s.update now c) := by
  refine (follows_lift _).bind fun path => (follows_readCatalog path).bind fun catalog => ?_
  refine (follows_lift _).bind fun directory => (follows_access _ _).bind fun _ => ?_
  exact (follows_access _ _).bind fun _ => follows_lift (.ok _)

theorem follows_loadCatalog (address : Text) :
    Follows (s.loadCatalog address) (s.loadCatalog address) := by
  refine (follows_lift _).bind fun path => (follows_access _ _).bind fun there => ?_
  cases there with
  | true => exact follows_readCatalog path
  | false => exact follows_lift (.error _)

theorem peeks_readCatalog (path : Text) : Peeks (readCatalog path) := by
  refine (peeks_readText? path).bind fun t => ?_
  cases t with
  | none => exact peeks_lift (.ok _)
  | some t =>
      simp only
      split
      · exact peeks_lift (.ok _)
      · exact peeks_lift (.error _)

/-- **Loading a catalog leaves the disk as it is.** -/
theorem peeks_loadCatalog (address : Text) : Peeks (s.loadCatalog address) := by
  refine (peeks_lift _).bind fun path => (peeks_isThere path).bind fun there => ?_
  cases there with
  | true => exact peeks_readCatalog path
  | false => exact peeks_lift (.error _)

end Shelf

end ChapterAssembly
