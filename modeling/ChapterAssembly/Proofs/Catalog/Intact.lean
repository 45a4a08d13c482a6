/-
**Updates that fail before they store.**

Loading a catalog and updating it look at the same file, one after asking whether it is there, the
other by taking a missing file for an empty catalog.  They refuse the same addresses and the same
files, with the same errors, and an update that refuses has touched nothing: the first directory is
made when nothing can be refused any more but by the disk.  Where there is no catalog, an update
makes one, on every way that is free, unless the disk fails when the directories are made or the file
is written.

Main definitions:

* `Shelf.Refuses` — what loading a catalog and updating it refuse;
* `Shelf.Guarded` — what is promised of an update and of loading the catalog of its book.

Main results:

* `Shelf.loadCatalog_eq_error_iff` — why a catalog is not loaded: it is refused, or nothing is
  there;
* `Update.refuses_or_of_meet` — why an update fails: it refuses, or the disk does;
* `Update.exists_run_eq_ok_iff` — which updates succeed;
* `Update.guarded` — **an update that refuses touches nothing, and refuses what loading does**.
-/

import ChapterAssembly.Proofs.Catalog.Errands
import ChapterAssembly.Proofs.Deeds
import ChapterAssembly.Proofs.Ways

set_option relaxedAutoImplicit false
set_option autoImplicit false

namespace ChapterAssembly

open Storing (on meet Gives onDrive onDrive_bind onDrive_lift onDrive_ofDisk)

/-! ### What is refused -/

/-- What cannot be looked for cannot be read, for the same reason, and that is not that it is
missing. -/
theorem Disk.readText_of_isThere_error {d : Disk} {path : Text} {why : DiskError}
    (h : d.isThere path = .error why) :
    d.readText path = .error why ∧ why ≠ .missing := by
  unfold isThere at h
  split at h
  · cases h
  · cases h
  · next e hmissing hp =>
      obtain rfl := Except.error.inj h
      refine ⟨?_, fun hm => hmissing hm⟩
      rw [readText, read, hp]
      rfl

namespace Shelf

variable {s : Shelf} {d d' : Disk} {address directory path : Text} {e : StorageError}

/-- **What loading a catalog and updating it refuse**: an address without a file, a file that cannot
be read although it is not missing, and one that is no catalog. -/
inductive Refuses (s : Shelf) (d : Disk) (address : Text) : StorageError → Prop where
  | address {e : StorageError} (hpath : s.catalogPath address = .error e) : Refuses s d address e
  | reading {path : Text} {why : DiskError} (hpath : s.catalogPath address = .ok path)
      (hread : d.readText path = .error why) (hwhy : why ≠ .missing) :
      Refuses s d address (.io why.message)
  | decoding {path t : Text} (hpath : s.catalogPath address = .ok path)
      (hread : d.readText path = .ok t) (hnone : Catalog.ofText? t = none) :
      Refuses s d address (.unreadable "this is no catalog")

/-- An address without a file is no URL, or has no host. -/
theorem catalogPath_ne_notFound (m : Text) : s.catalogPath address ≠ .error (.notFound m) := by
  unfold catalogPath directory
  cases Url.parse address with
  | error e => simp [Except.map]
  | ok u => cases hu : u.hostText? <;> simp [Except.map, hu]

theorem Refuses.ne_notFound (h : s.Refuses d address e) (m : Text) : e ≠ .notFound m := by
  cases h with
  | address hpath =>
      rintro rfl
      exact catalogPath_ne_notFound m hpath
  | reading => simp
  | decoding => simp

/-- **What stands in a file is refused** just if no catalog can be read there. -/
theorem refuses_iff_readCatalog (hpath : s.catalogPath address = .ok path) :
    s.Refuses d address e ↔ d.readCatalog path = .error e := by
  constructor
  · intro h
    cases h with
    | address hnone => simp [hpath] at hnone
    | reading hpath' hread hwhy =>
        obtain rfl := Except.ok.inj (hpath.symm.trans hpath')
        rw [Disk.readCatalog, hread]
        split <;> simp_all
    | decoding hpath' hread hnone =>
        obtain rfl := Except.ok.inj (hpath.symm.trans hpath')
        rw [Disk.readCatalog, hread]
        simp only [hnone]
  · intro h
    unfold Disk.readCatalog at h
    split at h
    · next t hread =>
        split at h
        · cases h
        · next hnone =>
            obtain rfl := Except.error.inj h
            exact .decoding hpath hread hnone
    · cases h
    · next why hwhy hread =>
        obtain rfl := Except.error.inj h
        exact .reading hpath hread fun hm => hwhy hm

/-- **Why a catalog is not loaded**: it is refused, or nothing is there. -/
theorem loadCatalog_eq_error_iff : (on (s.loadCatalog address) d).1 = .error e ↔
    s.Refuses d address e ∨ ∃ path, s.catalogPath address = .ok path ∧
      d.isThere path = .ok false ∧ e = .notFound ("No catalog stored for ".toList ++ address) := by
  rw [on_loadCatalog]
  cases hpath : s.catalogPath address with
  | error e' =>
      constructor
      · intro h
        obtain rfl := Except.error.inj h
        exact .inl (.address hpath)
      · rintro (h | ⟨path, hpath', -⟩)
        · cases h with
          | address h =>
              obtain rfl := Except.error.inj (hpath.symm.trans h)
              rfl
          | reading h | decoding h => simp [hpath] at h
        · cases hpath'
  | ok path =>
      rw [refuses_iff_readCatalog hpath]
      cases hthere : d.isThere path with
      | error why =>
          obtain ⟨hread, hwhy⟩ := Disk.readText_of_isThere_error hthere
          have hrefused : d.readCatalog path = .error (.io why.message) :=
            (refuses_iff_readCatalog hpath).1 (.reading hpath hread hwhy)
          simp [hrefused, hthere]
      | ok there =>
          cases there with
          | true => simp [hthere]
          | false => simp [hthere, Disk.readCatalog_of_isThere hthere, eq_comm]

/-- **Where nothing is**, an empty catalog is read. -/
theorem readCatalog_of_notFound {m : Text}
    (h : (on (s.loadCatalog address) d).1 = .error (.notFound m)) :
    ∃ path, s.catalogPath address = .ok path ∧ d.readCatalog path = .ok [] := by
  rcases loadCatalog_eq_error_iff.1 h with h | ⟨path, hpath, hthere, -⟩
  · exact absurd rfl (h.ne_notFound m)
  · exact ⟨path, hpath, Disk.readCatalog_of_isThere hthere⟩

/-- Where a catalog can be read, it is loaded, or nothing is there. -/
theorem loadCatalog_of_readCatalog {c : Catalog} (hpath : s.catalogPath address = .ok path)
    (hc : d.readCatalog path = .ok c) : (∃ c, (on (s.loadCatalog address) d).1 = .ok c) ∨
      ∃ m, (on (s.loadCatalog address) d).1 = .error (.notFound m) := by
  cases hload : (on (s.loadCatalog address) d).1 with
  | ok c => exact .inl ⟨c, rfl⟩
  | error e =>
      rcases loadCatalog_eq_error_iff.1 hload with h | ⟨_, -, -, rfl⟩
      · rw [refuses_iff_readCatalog hpath, hc] at h
        cases h
      · exact .inr ⟨_, rfl⟩

/-- The path of the directory of a book has no slash at its end. -/
theorem proper_directory (h : s.directory address = .ok directory) : Disk.Proper directory := by
  obtain ⟨u, host, -, -, rfl⟩ := directory_eq_ok_iff.1 h
  have hname := ordinary_nameOf u
  have hnames := Disk.names_join hname.ne_nil hname.no_slash (join s.base host)
  exact ⟨by simp [hnames], by rw [hnames, Disk.parts_join hname.ne_nil hname.no_slash]⟩

end Shelf

/-! ### Updates -/

namespace Update

variable {s : Shelf} {d d' : Disk} {u : Update} {directory : Text} {e : StorageError} {c : Catalog}
  {event : Event} {faults : List (Option Disk.Fault)}

/-- **An update that refuses touches nothing.** -/
theorem run_of_refuses (h : s.Refuses d u.chapter.bookUrl e) : u.run s d = (.error e, d) := by
  rw [run, Shelf.on_update]
  cases hdir : s.directory u.chapter.bookUrl with
  | error e' =>
      cases h with
      | address h | reading h | decoding h => simp_all [Shelf.catalogPath, Except.map]
  | ok directory =>
      have hpath : s.catalogPath u.chapter.bookUrl =
          .ok (Shelf.join directory Shelf.catalogName) := by
        rw [Shelf.catalogPath, hdir]
        rfl
      simp only [(Shelf.refuses_iff_readCatalog hpath).1 h]

/-- **Why an update fails** that meets no fault: it refuses, or the disk does when it stores. -/
theorem refuses_or_of_run (h : u.run s d = (.error e, d')) :
    (s.Refuses d u.chapter.bookUrl e ∧ d' = d) ∨ (∃ why : DiskError, e = .io why.message) ∧
      ∃ path c, s.catalogPath u.chapter.bookUrl = .ok path ∧ d.readCatalog path = .ok c := by
  cases hpath : s.catalogPath u.chapter.bookUrl with
  | error e' =>
      rw [run_of_refuses (.address hpath)] at h
      cases h
      exact .inl ⟨.address hpath, rfl⟩
  | ok path =>
      cases hc : d.readCatalog path with
      | error e' =>
          have hrefuses := (Shelf.refuses_iff_readCatalog hpath).2 hc
          rw [run_of_refuses hrefuses] at h
          cases h
          exact .inl ⟨hrefuses, rfl⟩
      | ok c =>
          obtain ⟨directory, hdir, rfl⟩ := Shelf.exists_directory hpath
          rw [run_of_readCatalog hdir hc] at h
          split at h
          · cases h
          · next why d₁ hstore =>
              cases h
              exact .inr ⟨⟨why, rfl⟩, _, c, rfl, hc⟩

/-- **Why an update fails**: it refuses, or a fault keeps it from reading the catalog, or the disk
does not let it store what it has read. -/
theorem refuses_or_of_meet (h : u.meet s faults d = (.error e, d')) :
    (s.Refuses d u.chapter.bookUrl e ∧ d' = d) ∨
    (∃ f, faults.headD none = some f ∧ e = .io f.reason ∧ d' = d) ∨
    (∃ m, e = .io m) ∧
      ∃ path c, s.catalogPath u.chapter.bookUrl = .ok path ∧ d.readCatalog path = .ok c := by
  cases outcome h with
  | unhurt hrun =>
      rcases refuses_or_of_run hrun with hrefuses | ⟨⟨why, rfl⟩, hread⟩
      · exact .inl hrefuses
      · exact .inr (.inr ⟨⟨_, rfl⟩, hread⟩)
  | unread hf => exact .inr (.inl ⟨_, hf, rfl, rfl⟩)
  | spared _ hpath hread => exact .inr (.inr ⟨⟨_, rfl⟩, _, _, hpath, hread⟩)
  | cut _ _ hpath hread => exact .inr (.inr ⟨⟨_, rfl⟩, _, _, hpath, hread⟩)

/-- **What an update refuses it refuses on a disk that fails**, unless it cannot read the catalog; it
touches nothing then. -/
theorem meet_of_refuses (h : s.Refuses d u.chapter.bookUrl e) (faults : List (Option Disk.Fault)) :
    (u.meet s faults d).2 = d ∧ ((u.meet s faults d).1 = .error e ∨
      ∃ f, faults.headD none = some f ∧ (u.meet s faults d).1 = .error (.io f.reason)) := by
  have hunread : ∀ path c, s.catalogPath u.chapter.bookUrl = .ok path →
      d.readCatalog path ≠ .ok c := by
    intro path c hpath hc
    rw [Shelf.refuses_iff_readCatalog hpath, hc] at h
    cases h
  rcases hmeet : u.meet s faults d with ⟨r, d'⟩
  cases outcome hmeet with
  | unhurt hrun =>
      rw [run_of_refuses h] at hrun
      cases hrun
      exact ⟨rfl, .inl rfl⟩
  | unread hf => exact ⟨rfl, .inr ⟨_, hf, rfl⟩⟩
  | spared _ hpath hread => exact absurd hread (hunread _ _ hpath)
  | cut _ _ hpath hread => exact absurd hread (hunread _ _ hpath)

/-- **Which updates succeed** of those that have read the catalog. -/
theorem exists_run_eq_ok_iff (hdir : s.directory u.chapter.bookUrl = .ok directory)
    (hc : d.readCatalog (Shelf.join directory Shelf.catalogName) = .ok c) :
    (∃ event d', u.run s d = (.ok event, d')) ↔ d.Admits directory Shelf.catalogName := by
  have hstore : (∃ d', d.store directory (Shelf.join directory Shelf.catalogName)
      (Utf8.encode (c.insert u.entry).text) = (.ok (), d')) ↔ _ :=
    Disk.exists_store_iff (Shelf.proper_directory hdir) Shelf.ordinary_catalogName
  rw [run_of_readCatalog hdir hc, ← hstore]
  cases d.store directory (Shelf.join directory Shelf.catalogName)
      (Utf8.encode (c.insert u.entry).text) with
  | mk result d₁ => cases result <;> simp

end Update

/-! ### What is promised -/

/-- **What is promised of an update and of loading the catalog of its book.** -/
structure Shelf.Guarded (s : Shelf) (d : Disk) (u : Update) : Prop where
  /-- Loading touches nothing, whatever faults it meets. -/
  loads : ∀ faults, (meet (s.loadCatalog u.chapter.bookUrl) faults d).2 = d
  /-- What loading fails of, unless nothing is there, an update fails of, and touches nothing. -/
  fails : ∀ e, (on (s.loadCatalog u.chapter.bookUrl) d).1 = .error e →
    (∀ m, e ≠ .notFound m) → u.run s d = (.error e, d)
  /-- Loading fails of what an update refuses.  That touches nothing then, also if it cannot even read
  the catalog. -/
  refuses : ∀ e, s.Refuses d u.chapter.bookUrl e →
    (on (s.loadCatalog u.chapter.bookUrl) d).1 = .error e ∧ u.run s d = (.error e, d) ∧
      ∀ faults, (u.meet s faults d).2 = d ∧ ((u.meet s faults d).1 = .error e ∨
        ∃ f, faults.headD none = some f ∧ (u.meet s faults d).1 = .error (.io f.reason))
  /-- A fault because of which a catalog cannot be looked for or read is passed on by both, and nothing
  is touched. -/
  unread : ∀ path f faults, s.catalogPath u.chapter.bookUrl = .ok path →
    u.meet s (some f :: faults) d = (.error (.io f.reason), d) ∧
    meet (s.loadCatalog u.chapter.bookUrl) (some f :: faults) d = (.error (.io f.reason), d) ∧
    (d.isThere path = .ok true →
      meet (s.loadCatalog u.chapter.bookUrl) (none :: some f :: faults) d =
        (.error (.io f.reason), d))
  /-- An update fails because it refuses, because it cannot read the catalog, or because the disk does
  not let it store what it has read; then the catalog is loaded, or nothing is there. -/
  stores : ∀ faults e d', u.meet s faults d = (.error e, d') →
    (s.Refuses d u.chapter.bookUrl e ∧ d' = d) ∨
    (∃ f, faults.headD none = some f ∧ e = .io f.reason ∧ d' = d) ∨
    (∃ m, e = .io m) ∧
      ((∃ c, (on (s.loadCatalog u.chapter.bookUrl) d).1 = .ok c) ∨
        ∃ m, (on (s.loadCatalog u.chapter.bookUrl) d).1 = .error (.notFound m))
  /-- Where the disk admits a catalog and has none, nothing is found, unless it fails. -/
  absent : ∀ directory, s.directory u.chapter.bookUrl = .ok directory →
    d.Admits directory Shelf.catalogName →
    d.node? (d.placeOf directory ++ [Shelf.catalogName]) = none →
    ∃ m, Gives (s.loadCatalog u.chapter.bookUrl) d (.error (.notFound m))
  /-- Where nothing is found and the disk admits a catalog, an update succeeds, unless it meets a fault
  and passes its reason on. -/
  admits : ∀ m, (on (s.loadCatalog u.chapter.bookUrl) d).1 = .error (.notFound m) →
    (∃ directory, s.directory u.chapter.bookUrl = .ok directory ∧
      d.Admits directory Shelf.catalogName) →
    ∀ faults, (∃ event d', u.meet s faults d = (.ok event, d')) ∨
      ∃ f, some f ∈ faults ∧ (u.meet s faults d).1 = .error (.io f.reason)
  /-- Where nothing is found and the disk admits no catalog, it fails of the disk. -/
  forbids : ∀ m, (on (s.loadCatalog u.chapter.bookUrl) d).1 = .error (.notFound m) →
    (¬ ∃ directory, s.directory u.chapter.bookUrl = .ok directory ∧
      d.Admits directory Shelf.catalogName) →
    ∀ faults, ∃ why, (u.meet s faults d).1 = .error (.io why)
  /-- An update that succeeds where nothing is found leaves a catalog with its entry alone, which is
  loaded with everything in it trimmed. -/
  single : ∀ m faults event d', (on (s.loadCatalog u.chapter.bookUrl) d).1 = .error (.notFound m) →
    u.meet s faults d = (.ok event, d') →
    (∃ path, s.catalogPath u.chapter.bookUrl = .ok path ∧
      d'.node? (d.placeOf path) = some (.file (Utf8.encode (Catalog.text [u.entry])))) ∧
    (u.moment.Kept →
      (on (s.loadCatalog u.chapter.bookUrl) d').1 = .ok [u.entry.trimmed])

namespace Update

variable {s : Shelf} {d d' : Disk} {u : Update} {event : Event} {m : Text}

theorem insert_nil (e : Entry) : Catalog.insert e [] = [e] := by
  rw [Catalog.insert, Catalog.place, List.mergeSort_singleton]

/-- **Where nothing was**, an update leaves a catalog with its entry alone. -/
theorem single_of_run
    (hnone : (on (s.loadCatalog u.chapter.bookUrl) d).1 = .error (.notFound m))
    (h : u.run s d = (.ok event, d')) :
    (∃ path, s.catalogPath u.chapter.bookUrl = .ok path ∧
      d'.node? (d.placeOf path) = some (.file (Utf8.encode (Catalog.text [u.entry])))) ∧
    (u.moment.Kept →
      (on (s.loadCatalog u.chapter.bookUrl) d').1 = .ok [u.entry.trimmed]) := by
  obtain ⟨path, hpath, hread⟩ := Shelf.readCatalog_of_notFound hnone
  constructor
  · obtain ⟨directory, hdir, rfl⟩ := Shelf.exists_directory hpath
    refine ⟨_, hpath, ?_⟩
    rw [run_of_readCatalog hdir hread] at h
    split at h
    · next d₁ hstore =>
        cases h
        rw [← insert_nil u.entry]
        exact (Disk.file_of_store hstore).2.2
    · cases h
  · intro hu
    obtain ⟨path', c, hpath', hread', hresolve, hcatalog, -⟩ := catalogAt?_of_ok hu h
    obtain rfl := Except.ok.inj (hpath.symm.trans hpath')
    obtain rfl := Except.ok.inj (hread.symm.trans hread')
    rw [insert_nil] at hcatalog
    exact Shelf.loadCatalog_eq_ok_iff_catalogAt?.2 ⟨path, _, hpath, hresolve, hcatalog⟩

/-- Where nothing is found, an update succeeds just if the disk admits a catalog. -/
theorem exists_run_iff_admits
    (hnone : (on (s.loadCatalog u.chapter.bookUrl) d).1 = .error (.notFound m)) :
    (∃ event d', u.run s d = (.ok event, d')) ↔
      ∃ directory, s.directory u.chapter.bookUrl = .ok directory ∧
        d.Admits directory Shelf.catalogName := by
  obtain ⟨path, hpath, hread⟩ := Shelf.readCatalog_of_notFound hnone
  obtain ⟨directory, hdir, rfl⟩ := Shelf.exists_directory hpath
  rw [exists_run_eq_ok_iff hdir hread]
  constructor
  · exact fun h => ⟨directory, hdir, h⟩
  · rintro ⟨directory', hdir', h⟩
    obtain rfl := Except.ok.inj (hdir.symm.trans hdir')
    exact h

/-- A fault because of which the catalog cannot be looked for or read. -/
theorem meet_of_unread {path : Text} (hpath : s.catalogPath u.chapter.bookUrl = .ok path)
    (f : Disk.Fault) (faults : List (Option Disk.Fault)) :
    u.meet s (some f :: faults) d = (.error (.io f.reason), d) ∧
    Storing.meet (s.loadCatalog u.chapter.bookUrl) (some f :: faults) d =
      (.error (.io f.reason), d) ∧
    (d.isThere path = .ok true →
      Storing.meet (s.loadCatalog u.chapter.bookUrl) (none :: some f :: faults) d =
        (.error (.io f.reason), d)) := by
  have hload : ∀ v, onDrive (s.loadCatalog u.chapter.bookUrl) v =
      match (Files.isThere path : StateM Drive _) v with
      | (.error e, v) => (.error (.io e.message), v)
      | (.ok true, v) => onDrive (Shelf.readCatalog path) v
      | (.ok false, v) =>
        (.error (.notFound ("No catalog stored for ".toList ++ u.chapter.bookUrl)), v) := by
    intro v
    rw [Shelf.loadCatalog, onDrive_bind, onDrive_lift, hpath]
    simp only
    rw [onDrive_bind, onDrive_ofDisk]
    obtain ⟨_ | _ | _, _⟩ := (Files.isThere path : StateM Drive _) v <;> rfl
  obtain ⟨directory, hdir, -⟩ := Shelf.exists_directory hpath
  refine ⟨?_, ?_, fun hthere => ?_⟩
  · rw [meet, Storing.meet, onDrive_update, hdir]
    rfl
  · rw [Storing.meet, hload]
    rfl
  · have hlook : (Files.isThere path : StateM Drive _) ⟨d, none :: some f :: faults⟩ =
        (.ok true, ⟨d, some f :: faults⟩) := by
      rw [← hthere]
      rfl
    rw [Storing.meet, hload, hlook]
    simp only [onDrive_readCatalog]
    rfl

/-- Where nothing is found and the disk admits no catalog, an update fails of the disk. -/
theorem meet_of_not_admits
    (hnone : (on (s.loadCatalog u.chapter.bookUrl) d).1 = .error (.notFound m))
    (hadmits : ¬ ∃ directory, s.directory u.chapter.bookUrl = .ok directory ∧
      d.Admits directory Shelf.catalogName) (faults : List (Option Disk.Fault)) :
    ∃ why, (u.meet s faults d).1 = .error (.io why) := by
  rcases hmeet : u.meet s faults d with ⟨_ | e, d'⟩
  · rcases refuses_or_of_meet hmeet with ⟨hrefuses, -⟩ | ⟨f, -, rfl, -⟩ | ⟨⟨why, rfl⟩, -⟩
    · -- what is refused is not missing
      have hload := Shelf.loadCatalog_eq_error_iff.2 (.inl hrefuses)
      rw [hnone] at hload
      cases hload
      exact absurd rfl (hrefuses.ne_notFound m)
    · exact ⟨_, rfl⟩
    · exact ⟨_, rfl⟩
  · exact absurd ((exists_run_iff_admits hnone).1 ⟨_, _, run_of_meet hmeet⟩) hadmits

/-- **An update that refuses touches nothing, and refuses what loading does**; and where loading
finds nothing, an update makes a catalog with one entry on every disk that admits it and does not
fail. -/
theorem guarded (s : Shelf) (d : Disk) (u : Update) : s.Guarded d u where
  loads faults := s.peeks_loadCatalog u.chapter.bookUrl ⟨d, faults⟩
  fails e he hne := by
    rcases Shelf.loadCatalog_eq_error_iff.1 he with h | ⟨_, -, -, rfl⟩
    · exact run_of_refuses h
    · exact absurd rfl (hne _)
  refuses e h := ⟨Shelf.loadCatalog_eq_error_iff.2 (.inl h), run_of_refuses h, meet_of_refuses h⟩
  unread path f faults hpath := meet_of_unread hpath f faults
  stores faults e d' h := by
    refine (refuses_or_of_meet h).imp_right (Or.imp_right ?_)
    rintro ⟨hwhy, path, c, hpath, hc⟩
    exact ⟨hwhy, Shelf.loadCatalog_of_readCatalog hpath hc⟩
  absent directory hdir hadmits hnone := by
    have hthere := hadmits.isThere (Shelf.proper_directory hdir) Shelf.ordinary_catalogName hnone
    exact ⟨_, Shelf.gives_loadCatalog_iff.2 (Shelf.loadCatalog_eq_error_iff.2
      (.inr ⟨_, Shelf.catalogPath_eq_ok hdir, hthere, rfl⟩))⟩
  admits m hnone hadmits faults := by
    obtain ⟨event, d', hrun⟩ := (exists_run_iff_admits hnone).2 hadmits
    refine ((s.follows_update u.moment u.chapter).meet_eq_or faults d).imp_left fun h => ?_
    exact ⟨event, d', h.trans hrun⟩
  forbids m hnone hadmits faults := meet_of_not_admits hnone hadmits faults
  single m faults event d' hnone h := single_of_run hnone (run_of_meet h)

/-- An update of the catalog of a book with a name that is too long. -/
def tooLong : Update := ⟨Shelf.leapDay, { bookUrl := Shelf.longAddress }⟩

/-- **Where nothing is found, an update may still fail**: when the disk cannot have a name. -/
theorem run_tooLong :
    ¬ ∀ (s : Shelf) (d : Disk) (u : Update) (m : Text),
      (on (s.loadCatalog u.chapter.bookUrl) d).1 = .error (.notFound m) →
      ∃ event d', u.run s d = (.ok event, d') := by
  intro h
  have hnone : (on (Shelf.srv.loadCatalog tooLong.chapter.bookUrl) Shelf.diskOfSrv).1 =
      .error (.notFound ("No catalog stored for ".toList ++ Shelf.longAddress)) := by
    decide +kernel
  obtain ⟨event, d', hrun⟩ := h Shelf.srv Shelf.diskOfSrv tooLong _ hnone
  have hfails : (tooLong.run Shelf.srv Shelf.diskOfSrv).1.isOk = false := by decide +kernel
  rw [hrun] at hfails
  cases hfails

end Update

end ChapterAssembly
