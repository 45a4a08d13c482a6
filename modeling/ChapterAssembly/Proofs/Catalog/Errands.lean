/-
**Updates that meet faults.**

An update reads the catalog, makes the directories and writes the file, and each of these may fail.
Before the file is opened no catalog has changed; but if writing fails when the file has been
emptied, the file is left with some of the new bytes, and with them the book may have lost its
catalog.  No other file is touched.

Main definitions:

* `Update.meet` — an update whose accesses meet faults;
* `Update.Outcome` — all that can come of it;
* `Errand`, `Errand.inTurn` — updates with their faults, one after the other;
* `Errand.Spares` — an entry of an index is left as it is.

Main results:

* `Update.outcome` — **what comes of an update that meets faults**;
* `Errand.inTurn_of_unfaulted` — errands without faults are updates in turn;
* `Disk.Lists.errand`, `Disk.Lists.inTurn` — **the last entry of an index stays** through any
  errands, unless its file is left half written;
* `Update.meet_full`, `Disk.Lists.lost` — a catalog that is lost with its file.
-/

import ChapterAssembly.Proofs.Catalog.History
import ChapterAssembly.Proofs.Drive

set_option relaxedAutoImplicit false
set_option autoImplicit false

namespace ChapterAssembly

/-! ### Files that are stored on a disk that fails -/

namespace Drive

/-- A file written in a directory that is made first. -/
def store (v : Drive) (directory path : Text) (bytes : Bytes) : Except DiskError Unit × Drive :=
  match (Files.makeDirectories directory : StateM Drive _) v with
  | (.error e, v) => (.error e, v)
  | (.ok _, v) => (Files.write path bytes : StateM Drive _) v

end Drive

namespace Disk

variable {d : Disk} {directory path : Text} {bytes : Bytes} {faults : List (Option Fault)}
  {r : Except DiskError Unit} {v : Drive}

/-- **What comes of storing a file** on a disk that fails. -/
inductive Stored (d : Disk) (directory path : Text) (bytes : Bytes) (faults : List (Option Fault)) :
    Except DiskError Unit → Disk → Prop where
  /-- No fault was met. -/
  | unhurt {r : Except DiskError Unit} {d' : Disk} (h : d.store directory path bytes = (r, d')) :
      Stored d directory path bytes faults r d'
  /-- A fault was met before the file was opened; the disk has some more directories at most. -/
  | spared {f : Fault} {d' : Disk} (hf : some f ∈ faults) (hgrows : ∀ w, Grows w d d') :
      Stored d directory path bytes faults (.error f.error) d'
  /-- A fault was met when the file had been opened: some of its bytes were written. -/
  | cut {f : Fault} {n : Nat} {d₁ d' : Disk} (hf : some f ∈ faults) (hn : f.bytes = some n)
      (hgrows : ∀ w, Grows w d d₁) (hcut : d₁.write path (bytes.take n) = .ok d') :
      Stored d directory path bytes faults (.error f.error) d'

theorem mem_of_headD {f : Fault} (h : faults.headD none = some f) : some f ∈ faults := by
  cases faults with
  | nil => cases h
  | cons o later => exact h ▸ List.mem_cons_self

/-- A fault while the file is written. -/
theorem stored_of_fault {f : Fault} {d₁ : Disk} (hf : some f ∈ faults)
    (hgrows : ∀ w, Grows w d d₁) : d.Stored directory path bytes faults (.error f.error)
      (match f.bytes with
        | none => d₁
        | some n => ((Files.write path (bytes.take n) : StateM Disk _) d₁).2) := by
  cases hn : f.bytes with
  | none => exact .spared hf hgrows
  | some n =>
      cases hcut : d₁.write path (bytes.take n) with
      | error e => simpa [Files.write, hcut] using Stored.spared hf hgrows
      | ok d' => simpa [Files.write, hcut] using Stored.cut hf hn hgrows hcut

/-- **What comes of storing a file**, whatever faults there are. -/
theorem stored (h : Drive.store ⟨d, faults⟩ directory path bytes = (r, v)) :
    d.Stored directory path bytes faults r v.disk := by
  cases hfirst : faults.headD none with
  | some f =>
      have hmake : (Files.makeDirectories directory : StateM Drive _) ⟨d, faults⟩ =
          (.error f.error, ⟨(d.makeFrom (d.start directory) ((names directory).take f.names)).2,
            faults.tail⟩) := Drive.access_of_some hfirst
      rw [Drive.store, hmake] at h
      cases h
      exact .spared (mem_of_headD hfirst) fun w => grows_makeFrom w d _ _
  | none =>
      rcases hmade : d.makeDirectories directory with ⟨made, d₁⟩
      have hgrows : ∀ w, Grows w d d₁ := fun w => by
        simpa [hmade] using grows_makeDirectories w d directory
      have hmake : (Files.makeDirectories directory : StateM Drive _) ⟨d, faults⟩ =
          (made, ⟨d₁, faults.tail⟩) := by
        rw [show (Files.makeDirectories directory : StateM Drive _) ⟨d, faults⟩ =
          ((d.makeDirectories directory).1, ⟨(d.makeDirectories directory).2, faults.tail⟩) from
          Drive.access_of_none hfirst, hmade]
      rw [Drive.store, hmake] at h
      cases made with
      | error e =>
          cases h
          exact .unhurt (by rw [Disk.store, hmade])
      | ok u =>
          cases hsecond : faults.tail.headD none with
          | some f =>
              have hwrite := h.symm.trans (Drive.access_of_some hsecond)
              cases hwrite
              exact stored_of_fault (List.mem_of_mem_tail (mem_of_headD hsecond)) hgrows
          | none =>
              have hwrite := h.symm.trans (Drive.access_of_none hsecond)
              cases hwrite
              refine .unhurt ?_
              rw [Disk.store, hmade]
              cases hwritten : d₁.write path bytes <;> simp [Files.write, hwritten]

end Disk

/-! ### One update -/

namespace Update

variable {u : Update} {s : Shelf} {d d' : Disk} {faults : List (Option Disk.Fault)}
  {r : Except StorageError Event} {p : Place}

open Storing

/-- **An update whose accesses meet faults.** -/
def meet (u : Update) (s : Shelf) (faults : List (Option Disk.Fault)) (d : Disk) :
    Except StorageError Event × Disk :=
  Storing.meet (s.update u.moment u.chapter) faults d

/-- Without faults it is the update itself. -/
@[simp] theorem meet_nil (u : Update) (s : Shelf) (d : Disk) : u.meet s [] d = u.run s d :=
  (s.follows_update u.moment u.chapter).meet_nil d

/-- **An update that succeeds has met no fault.** -/
theorem run_of_meet {event : Event} (h : u.meet s faults d = (.ok event, d')) :
    u.run s d = (.ok event, d') :=
  (s.follows_update u.moment u.chapter).on_of_meet h

/-- **All that can come of an update that meets faults.** -/
inductive Outcome (u : Update) (s : Shelf) (faults : List (Option Disk.Fault)) (d : Disk) :
    Except StorageError Event → Disk → Prop where
  /-- No fault was met. -/
  | unhurt {r : Except StorageError Event} {d' : Disk} (h : u.run s d = (r, d')) :
      Outcome u s faults d r d'
  /-- A fault was met when the catalog was to be read. -/
  | unread {f : Disk.Fault} (hf : faults.headD none = some f) :
      Outcome u s faults d (.error (.io f.reason)) d
  /-- A fault was met between reading the catalog and opening its file. -/
  | spared {f : Disk.Fault} {path : Text} {c : Catalog} {d' : Disk} (hf : some f ∈ faults)
      (hpath : s.catalogPath u.chapter.bookUrl = .ok path) (hread : d.readCatalog path = .ok c)
      (hgrows : ∀ w, Disk.Grows w d d') : Outcome u s faults d (.error (.io f.reason)) d'
  /-- A fault was met when the file had been opened. -/
  | cut {f : Disk.Fault} {n : Nat} {path : Text} {c : Catalog} {d₁ d' : Disk} (hf : some f ∈ faults)
      (hn : f.bytes = some n) (hpath : s.catalogPath u.chapter.bookUrl = .ok path)
      (hread : d.readCatalog path = .ok c) (hgrows : ∀ w, Disk.Grows w d d₁)
      (hcut : d₁.write path ((Utf8.encode (c.insert u.entry).text).take n) = .ok d') :
      Outcome u s faults d (.error (.io f.reason)) d'

/-- Reading a catalog on a disk that fails. -/
theorem onDrive_readCatalog (path : Text) (v : Drive) : onDrive (Shelf.readCatalog path) v =
    (match v.faults.headD none with
      | some f => .error (.io f.reason)
      | none => v.disk.readCatalog path, ⟨v.disk, v.faults.tail⟩) := by
  rw [Shelf.readCatalog, onDrive_bind, onDrive_readText?]
  cases v.faults.headD none with
  | some f => rfl
  | none =>
      rw [on_readText?, Disk.readCatalog]
      cases v.disk.readText path with
      | ok t => cases ht : Catalog.ofText? t <;> simp only [ht] <;> rfl
      | error e => cases e <;> rfl

/-- Directories made and then a file written are a file stored. -/
theorem onDrive_store {α : Type} (directory path : Text) (bytes : Bytes)
    (next : Storing (StateM Drive) α) (v : Drive) :
    onDrive (do ofDisk (Files.makeDirectories directory); ofDisk (Files.write path bytes); next) v =
      match v.store directory path bytes with
      | (.ok _, v) => onDrive next v
      | (.error e, v) => (.error (.io e.message), v) := by
  rw [onDrive_bind, onDrive_ofDisk, Drive.store]
  obtain ⟨_ | _, v⟩ := (Files.makeDirectories directory : StateM Drive _) v
  · rfl
  · simp only [Except.mapError, onDrive_bind, onDrive_ofDisk]
    obtain ⟨_ | _, _⟩ := (Files.write path bytes : StateM Drive _) v <;> rfl

/-- Updating a catalog is reading it and storing it with one more entry. -/
theorem onDrive_update (s : Shelf) (u : Update) (v : Drive) :
    onDrive (s.update u.moment u.chapter) v =
      match s.directory u.chapter.bookUrl with
      | .error e => (.error e, v)
      | .ok directory =>
        match v.faults.headD none with
        | some f => (.error (.io f.reason), ⟨v.disk, v.faults.tail⟩)
        | none =>
          match v.disk.readCatalog (Shelf.join directory Shelf.catalogName) with
          | .error e => (.error e, ⟨v.disk, v.faults.tail⟩)
          | .ok c =>
            match Drive.store ⟨v.disk, v.faults.tail⟩ directory
              (Shelf.join directory Shelf.catalogName) (Utf8.encode (c.insert u.entry).text) with
            | (.ok _, v) => (.ok ⟨.debug, "updated catalog entry",
                [("chapter", Text.ofNat u.chapter.index.toNat), ("title", u.chapter.title)]⟩, v)
            | (.error e, v) => (.error (.io e.message), v) := by
  rw [Shelf.update, onDrive_bind, onDrive_lift, Shelf.catalogPath]
  cases hdir : s.directory u.chapter.bookUrl with
  | error e => rfl
  | ok directory =>
      simp only [Except.map]
      rw [onDrive_bind, onDrive_readCatalog]
      cases v.faults.headD none with
      | some f => rfl
      | none =>
          cases v.disk.readCatalog (Shelf.join directory Shelf.catalogName) with
          | error e => rfl
          | ok c =>
              simp only
              rw [onDrive_bind, onDrive_lift]
              exact onDrive_store directory _ _ _ _

/-- **What comes of an update**, whatever faults it meets. -/
theorem outcome (h : u.meet s faults d = (r, d')) : u.Outcome s faults d r d' := by
  rw [meet, Storing.meet, onDrive_update] at h
  cases hdir : s.directory u.chapter.bookUrl with
  | error e =>
      rw [hdir] at h
      cases h
      exact .unhurt (by rw [run, Shelf.on_update, hdir]; rfl)
  | ok directory =>
      rw [hdir] at h
      cases hfirst : faults.headD none with
      | some f =>
          simp only [hfirst] at h
          cases h
          exact .unread hfirst
      | none =>
          simp only [hfirst] at h
          cases hc : d.readCatalog (Shelf.join directory Shelf.catalogName) with
          | error e =>
              simp only [hc] at h
              cases h
              exact .unhurt (by rw [run, Shelf.on_update, hdir]; simp only [hc]; rfl)
          | ok c =>
              simp only [hc] at h
              have hpath := Shelf.catalogPath_eq_ok hdir
              rcases hstore : Drive.store ⟨d, faults.tail⟩ directory
                (Shelf.join directory Shelf.catalogName)
                (Utf8.encode (c.insert u.entry).text) with ⟨result, v⟩
              rw [hstore] at h
              cases Disk.stored hstore with
              | unhurt hplain =>
                  refine .unhurt ?_
                  rw [run_of_readCatalog hdir hc, hplain]
                  cases result <;> exact h
              | spared hf hgrows =>
                  cases h
                  exact .spared (List.mem_of_mem_tail hf) hpath hc hgrows
              | cut hf hn hgrows hcut =>
                  cases h
                  exact .cut (List.mem_of_mem_tail hf) hn hpath hc hgrows hcut

/-- Paths lead to the same places as before. -/
theorem placeOf_meet (hu : u.moment.Kept) (path : Text) :
    (u.meet s faults d).2.placeOf path = d.placeOf path := by
  rcases hmeet : u.meet s faults d with ⟨r, d'⟩
  cases outcome hmeet with
  | unhurt hrun =>
      have hplace := placeOf_run (s := s) (d := d) hu path
      rwa [hrun] at hplace
  | unread => rfl
  | spared _ _ _ hgrows => exact (hgrows []).placeOf path
  | cut _ _ _ _ hgrows hcut =>
      exact ((Disk.file_of_write hcut).1.placeOf path).trans ((hgrows []).placeOf path)

end Update

/-! ### Updates in turn -/

/-- **An update with the faults that its accesses meet.** -/
structure Errand where
  update : Update
  faults : List (Option Disk.Fault) := []

namespace Errand

variable {s : Shelf} {d : Disk} {a : Errand} {as bs : List Errand}

/-- What an errand does on a disk. -/
def run (a : Errand) (s : Shelf) (d : Disk) : Except StorageError Event × Disk :=
  a.update.meet s a.faults d

/-- **An errand spares the entry of an index** in its file: if it succeeds it is about another one,
and if it fails, it does not when the file is open. -/
def Spares (a : Errand) (i : UInt32) : Except StorageError Event → Prop
  | .ok _ => a.update.chapter.index ≠ i
  | .error _ => ∀ f, some f ∈ a.faults → f.bytes = none

/-- **Errands one after the other**: what comes of each, and the disk that is left. -/
def inTurn (s : Shelf) (d : Disk) : List Errand → List (Except StorageError Event) × Disk
  | [] => ([], d)
  | a :: as =>
    let (r, d) := a.run s d
    let (rs, d) := inTurn s d as
    (r :: rs, d)

@[simp] theorem inTurn_nil : inTurn s d [] = ([], d) := rfl

@[simp] theorem inTurn_cons : inTurn s d (a :: as) =
    ((a.run s d).1 :: (inTurn s (a.run s d).2 as).1, (inTurn s (a.run s d).2 as).2) := rfl

theorem inTurn_append : inTurn s d (as ++ bs) =
    ((inTurn s d as).1 ++ (inTurn s (inTurn s d as).2 bs).1,
      (inTurn s (inTurn s d as).2 bs).2) := by
  induction as generalizing d with
  | nil => rfl
  | cons a as ih => simp [ih]

theorem length_inTurn : (inTurn s d as).1.length = as.length := by
  induction as generalizing d with
  | nil => rfl
  | cons a as ih => simp [ih]

theorem placeOf_inTurn (has : ∀ a ∈ as, a.update.moment.Kept) (path : Text) :
    (inTurn s d as).2.placeOf path = d.placeOf path := by
  induction as generalizing d with
  | nil => rfl
  | cons a as ih =>
      rw [List.forall_mem_cons] at has
      rw [inTurn_cons, ih has.2]
      exact Update.placeOf_meet has.1 path

/-- **Errands without faults are updates in turn.** -/
theorem inTurn_of_unfaulted (has : ∀ a ∈ as, a.faults = []) :
    inTurn s d as = s.inTurn d (as.map (·.update)) := by
  induction as generalizing d with
  | nil => rfl
  | cons a as ih =>
      rw [List.forall_mem_cons] at has
      have hrun : a.run s d = a.update.run s d := by rw [run, has.1, Update.meet_nil]
      rw [inTurn_cons, hrun, ih has.2]
      rfl

end Errand

/-! ### The last entry of an index -/

namespace Disk.Lists

variable {s : Shelf} {d d' : Disk} {a : Errand} {as : List Errand} {address path : Text} {p : Place}
  {i : UInt32} {e : Entry} {r : Except StorageError Event}

/-- **An entry that was read stays** through an errand that spares it, or is for another file. -/
theorem errand (h : d.Lists path p i e.trimmed) (ha : a.update.moment.Kept)
    (hrun : a.run s d = (r, d')) (hpath : s.catalogPath address = .ok path)
    (hspares : ∀ path', s.catalogPath a.update.chapter.bookUrl = .ok path' →
      d.placeOf path' = p → a.Spares i r) :
    d'.Lists path p i e.trimmed := by
  cases Update.outcome hrun with
  | unhurt hplain =>
      refine h.run ha hplain hpath ?_
      rintro event path' rfl hpath' hplace
      exact hspares path' hpath' hplace
  | unread => exact h
  | spared _ _ _ hgrows => exact h.of_grows (hgrows (p ++ [[]])) (by simp)
  | @cut f n path' c d₁ _ hf hn hpath' _ hgrows hcut =>
      -- the file that was opened is another one
      have hne : p ≠ d₁.placeOf path' := by
        intro hplace
        rw [(hgrows []).placeOf] at hplace
        have hnone : f.bytes = none := hspares path' hpath' hplace.symm f hf
        simp [hn] at hnone
      exact (h.of_grows (hgrows (p ++ [[]])) (by simp)).of_grows (Disk.file_of_write hcut).1 hne

/-- **So it does through any errands** that spare it, or that are for other files. -/
theorem inTurn (h : d.Lists path p i e.trimmed) (hkept : ∀ a ∈ as, a.update.moment.Kept)
    (hpath : s.catalogPath address = .ok path)
    (hspares : ∀ a r, (a, r) ∈ as.zip (Errand.inTurn s d as).1 →
      ∀ path', s.catalogPath a.update.chapter.bookUrl = .ok path' → d.placeOf path' = p →
        a.Spares i r) :
    (Errand.inTurn s d as).2.Lists path p i e.trimmed := by
  induction as generalizing d with
  | nil => exact h
  | cons a as ih =>
      rw [List.forall_mem_cons] at hkept
      have hfirst := h.errand hkept.1 rfl hpath (hspares a _ List.mem_cons_self)
      refine ih hfirst hkept.2 fun b r hb path' hpath' hplace => ?_
      -- what later errands are about is said with the places on the disk before
      refine hspares b r (List.mem_cons_of_mem _ hb) path' hpath' ?_
      rw [← hplace]
      exact (Update.placeOf_meet hkept.1 path').symm

end Disk.Lists

/-! ### A file that is emptied -/

/-- The disk is full when the file has been emptied. -/
def Disk.full : Disk.Fault := { reason := "No space left on device (os error 28)", bytes := some 0 }

/-- **A file is emptied** if the disk is full when it is to be written. -/
theorem Update.meet_full {s : Shelf} {d : Disk} {u : Update} {directory : Text} {p : Place}
    {c : Catalog} (hdir : s.directory u.chapter.bookUrl = .ok directory)
    (hp : d.resolve (Shelf.join directory Shelf.catalogName) = .ok p)
    (hc : d.catalogAt? p = some c) : u.meet s [none, none, some Disk.full] d =
      (.error (.io Disk.full.reason), d.put p (.file [])) := by
  obtain ⟨bytes, t, hnode, -, -⟩ := Disk.catalogAt?_eq_some_iff.1 hc
  have hmade : (Files.makeDirectories directory : StateM Disk _) d = (.ok (), d) :=
    Disk.makeDirectories_of_resolve Shelf.ordinary_catalogName hp
  have hmake : (Files.makeDirectories directory : StateM Drive _) ⟨d, [none, some Disk.full]⟩ =
      (.ok (), ⟨d, [some Disk.full]⟩) := by
    refine (Drive.access_of_none rfl).trans ?_
    rw [hmade]
    rfl
  have hemptied : (Files.write (Shelf.join directory Shelf.catalogName) [] : StateM Disk _) d =
      (.ok (), d.put p (.file [])) := by
    have hwritten : d.write (Shelf.join directory Shelf.catalogName) [] = .ok _ :=
      Disk.write_eq_ok_iff.2 ⟨p, hp, by simp [hnode], rfl⟩
    simp only [Files.write, hwritten]
  have hcut : ∀ bytes, (Files.write (Shelf.join directory Shelf.catalogName) bytes : StateM Drive _)
      ⟨d, [some Disk.full]⟩ = (.error Disk.full.error, ⟨d.put p (.file []), []⟩) := by
    intro bytes
    have hbytes : Disk.full.bytes = some 0 := rfl
    refine (Drive.access_of_some (f := Disk.full) rfl).trans ?_
    simp only [hbytes, List.take_zero, hemptied, List.tail_cons]
  rw [meet, Storing.meet, onDrive_update, hdir]
  simp only [List.headD_cons, List.tail_cons, Disk.readCatalog_of_catalogAt? hp hc, Drive.store,
    hmake, hcut]
  rfl

/-- **In an empty file there is no catalog.** -/
theorem Disk.Lists.lost {s : Shelf} {d : Disk} {address path : Text} {p : Place} {i : UInt32}
    {e : Entry} (h : d.Lists path p i e) (hpath : s.catalogPath address = .ok path) (c : Catalog) :
    (Storing.on (s.loadCatalog address) (d.put p (.file []))).1 ≠ .ok c := by
  rw [ne_eq, Shelf.loadCatalog_eq_ok_iff_catalogAt?]
  rintro ⟨path', p', hpath', hp', hcatalog⟩
  obtain rfl := Except.ok.inj (hpath.symm.trans hpath')
  obtain ⟨c', hc', -⟩ := h.entry
  obtain ⟨bytes, t, hnode, -, -⟩ := Disk.catalogAt?_eq_some_iff.1 hc'
  have hfile : d.node? p ≠ some .directory := by simp [hnode]
  obtain rfl := Except.ok.inj (((Disk.grows_put hfile []).resolve h.resolve).symm.trans hp')
  rw [Disk.catalogAt?, Disk.node?_put d p p _ (Disk.ne_nil_of_node? hfile rfl),
    if_pos rfl] at hcatalog
  have hnone : (Utf8.decode? []).bind Catalog.ofText? = none := by decide +kernel
  simp [hnone] at hcatalog

end ChapterAssembly
