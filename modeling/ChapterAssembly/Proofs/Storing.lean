/-
**What storing and loading do to a disk.**

Texts and catalogs are stored alike: the directories are made, and then the file is written.
Loading reads a file and leaves the disk as it is.  Here the work is carried out on a disk that is
a value, so that what becomes of it can be said.

Main definitions:

* `Storing.on` — some work carried out on a disk;
* `Disk.store` — directories made, and then a file written.

Main results:

* `Shelf.on_save`, `Shelf.on_update` — storing is `Disk.store` at the path of the file;
* `Shelf.load_eq_ok_iff`, `Shelf.loadCatalog_eq_ok_iff` — what is loaded stands in the file;
* `Shelf.keeps_save`, `Shelf.keeps_update` — **storing touches no file but its own**;
* `Disk.Keeps.readText_iff` — a file that was not touched is read as before.
-/

import ChapterAssembly.Proofs.Shelf
import ChapterAssembly.Store.Access

set_option relaxedAutoImplicit false
set_option autoImplicit false

namespace ChapterAssembly

/-! ### Work on a disk -/

namespace Disk

/-- A file written in a directory that is made first; what was made stays if the rest fails. -/
def store (d : Disk) (directory path : Text) (bytes : Bytes) : Except DiskError Unit × Disk :=
  match d.makeDirectories directory with
  | (.error e, d) => (.error e, d)
  | (.ok _, d) =>
    match d.write path bytes with
    | .ok d' => (.ok (), d')
    | .error e => (.error e, d)

/-- The text of a file. -/
def readText (d : Disk) (path : Text) : Except DiskError Text := do
  match Utf8.decode? (← d.read path) with
  | some t => .ok t
  | none => .error .notText

theorem readText_eq_ok_iff {d : Disk} {path t : Text} : d.readText path = .ok t ↔
    ∃ bytes, d.read path = .ok bytes ∧ Utf8.decode? bytes = some t := by
  unfold readText
  cases d.read path with
  | error e => simp [bind, Except.bind]
  | ok bytes => cases hb : Utf8.decode? bytes <;> simp [bind, Except.bind, hb]

/-- The catalog in a file; without a file it is empty. -/
def readCatalog (d : Disk) (path : Text) : Except StorageError Catalog :=
  match d.readText path with
  | .ok t =>
    match Catalog.ofText? t with
    | some c => .ok c
    | none => .error (.unreadable "this is no catalog")
  | .error .missing => .ok []
  | .error e => .error (.io e.message)

/-- A file that can be read is there. -/
theorem isThere_of_read {d : Disk} {path : Text} {bytes : Bytes} (h : d.read path = .ok bytes) :
    d.isThere path = .ok true := by
  unfold read at h
  unfold isThere
  cases hp : d.resolve path with
  | error e => simp [hp, bind, Except.bind] at h
  | ok p => cases hn : d.node? p <;> simp_all [bind, Except.bind]

/-- **Storing a file touches no other.** -/
theorem Rooted.keeps_store {d : Disk} (hr : d.Rooted) {name : Text} (ho : Ordinary name)
    (directory : Text) (bytes : Bytes) :
    Keeps (d.placeOf directory ++ [name]) d
      (d.store directory (Shelf.join directory name) bytes).2 := by
  have hmade := hr.keeps_makeDirectories directory (d.placeOf directory ++ [name])
  unfold store
  split
  · next e d' h => simpa [h] using hmade
  · next u d' h =>
      rw [h] at hmade
      split
      · next d'' hw =>
          have hkeeps := hmade.rooted.keeps_write
            (names_join ho.ne_nil ho.no_slash directory) ho hw
          rw [placeOf_congr hmade.working, placeOf_join d ho] at hkeeps
          exact hmade.trans hkeeps
      · exact hmade

/-- What is there is not missing. -/
theorem readText_ne_missing {d : Disk} {path : Text} (h : d.isThere path = .ok true) :
    d.readText path ≠ .error .missing := by
  unfold isThere at h
  unfold readText read
  cases hp : d.resolve path with
  | error e => cases e <;> simp [hp] at h
  | ok p =>
      cases hn : d.node? p with
      | none => simp [hp, hn] at h
      | some n =>
          cases n with
          | directory => simp [hn, bind, Except.bind]
          | file bytes => cases hb : Utf8.decode? bytes <;> simp [hn, bind, Except.bind, hb]

/-- **A file that was not touched is read as before**, if the path of its directory does not go
up. -/
theorem Keeps.readText_iff {d d' : Disk} {w : Place} {name directory t : Text} (h : Keeps w d d')
    (hr : d.Rooted) (ho : Ordinary name) (hdots : "..".toList ∉ parts directory)
    (hw : d.placeOf directory ++ [name] ≠ w) :
    d'.readText (Shelf.join directory name) = .ok t ↔
      d.readText (Shelf.join directory name) = .ok t := by
  have hn := names_join ho.ne_nil ho.no_slash directory
  have hplace : d.placeOf (Shelf.join directory name) ≠ w := by rwa [placeOf_join d ho]
  simp only [readText_eq_ok_iff, h.rooted.read_eq_ok_iff hn hdots ho,
    hr.read_eq_ok_iff hn hdots ho, placeOf_congr h.working, h.file _ _ hplace]

end Disk

/-- Reading a text is reading bytes, whatever disk it is done on. -/
theorem Files.readText_run {σ : Type} [Files (StateM σ)] (path : Text) (v : σ) :
    (Files.readText path : StateM σ _) v =
      ((Files.read path : StateM σ _) v).map (fun r => r >>= fun bytes =>
        match Utf8.decode? bytes with
        | some t => .ok t
        | none => .error .notText) id := rfl

namespace Storing

variable {α β : Type} (d : Disk)

/-- Some work carried out on a disk. -/
def on (work : Storing (StateM Disk) α) (d : Disk) : Except StorageError α × Disk :=
  ExceptT.run work d

@[simp] theorem on_pure (a : α) : on (pure a) d = (.ok a, d) := rfl

@[simp] theorem on_throw (e : StorageError) :
    on (throw e : Storing (StateM Disk) α) d = (.error e, d) := rfl

/-- What does not touch the disk. -/
@[simp] theorem on_lift (x : Except StorageError α) :
    on (liftM x : Storing (StateM Disk) α) d = (x, d) := by
  cases x <;> rfl

/-- Work that goes on with what came of other work, whatever disk it is done on. -/
theorem run_bind {σ : Type} (x : Storing (StateM σ) α) (f : α → Storing (StateM σ) β) (v : σ) :
    ExceptT.run (x >>= f) v =
      match ExceptT.run x v with
      | (.ok a, v) => ExceptT.run (f a) v
      | (.error e, v) => (.error e, v) := by
  simp only [bind, ExceptT.bind, ExceptT.run, ExceptT.mk, StateT.bind]
  generalize x v = r
  obtain ⟨_ | _, _⟩ := r <;> rfl

theorem on_bind (x : Storing (StateM Disk) α) (f : α → Storing (StateM Disk) β) :
    on (x >>= f) d =
      match on x d with
      | (.ok a, d) => on (f a) d
      | (.error e, d) => (.error e, d) := by
  rw [on, run_bind, on]
  obtain ⟨_ | _, _⟩ := ExceptT.run x d <;> rfl

theorem on_ofDisk (work : StateM Disk (Except DiskError α)) :
    on (ofDisk work) d = ((work d).1.mapError fun e => .io e.message, (work d).2) := rfl

/-- The text of a file that need not be there, whatever disk it is on. -/
theorem run_readText? {σ : Type} [Files (StateM σ)] (path : Text) (v : σ) :
    ExceptT.run (readText? path : Storing (StateM σ) _) v =
      match (Files.readText path : StateM σ _) v with
      | (.ok t, v) => (.ok (some t), v)
      | (.error .missing, v) => (.ok none, v)
      | (.error e, v) => (.error (.io e.message), v) := by
  simp only [readText?, ExceptT.run, ExceptT.mk, bind, StateT.bind]
  obtain ⟨e | _, v⟩ := (Files.readText path : StateM σ _) v
  · cases e <;> rfl
  · rfl

/-- The text of a file that need not be there. -/
theorem on_readText? (path : Text) :
    on (readText? path) d =
      (match d.readText path with
        | .ok t => .ok (some t)
        | .error .missing => .ok none
        | .error e => .error (.io e.message), d) := by
  have hread : (Files.readText path : StateM Disk _) d = (d.readText path, d) :=
    Files.readText_run path d
  rw [on, run_readText?, hread]
  cases d.readText path with
  | ok t => rfl
  | error e => cases e <;> rfl

/-- Directories made and then a file written are a file stored. -/
theorem on_store (directory path : Text) (bytes : Bytes) (next : Storing (StateM Disk) α) :
    on (do ofDisk (Files.makeDirectories directory); ofDisk (Files.write path bytes); next) d =
      match d.store directory path bytes with
      | (.ok _, d) => on next d
      | (.error e, d) => (.error (.io e.message), d) := by
  rw [on_bind, on_ofDisk]
  simp only [Files.makeDirectories, Disk.store]
  obtain ⟨made, d'⟩ := d.makeDirectories directory
  cases made with
  | error e => rfl
  | ok u =>
      simp only [Except.mapError, on_bind, on_ofDisk, Files.write]
      cases d'.write path bytes <;> rfl

end Storing

/-! ### Texts of chapters -/

namespace Shelf

open Storing

variable (s : Shelf) (d : Disk)

/-- **Storing a text** is storing the file of the chapter. -/
theorem on_save (book : Book) (c : Chapter) (content : Text) :
    on (s.save book c content) d =
      match s.directory c.bookUrl with
      | .error e => (.error e, d)
      | .ok directory =>
        let path := join directory (contentName c.index)
        match d.store directory path (Utf8.encode content) with
        | (.ok _, d) => (.ok ⟨.debug, "stored chapter content", [("book", book.name),
            ("chapter", Text.ofNat c.index.toNat), ("path", path)]⟩, d)
        | (.error e, d) => (.error (.io e.message), d) := by
  rw [save, on_bind, on_lift, contentPath]
  cases hdir : s.directory c.bookUrl with
  | error e => rfl
  | ok directory =>
      simp only [Except.map]
      rw [on_bind, on_lift]
      exact on_store d directory _ _ _

/-- **Loading a text** is reading the file of the chapter. -/
theorem on_load (c : Chapter) :
    on (s.load c) d =
      (match s.contentPath c with
        | .error e => .error e
        | .ok path =>
          match d.readText path with
          | .ok t => .ok t
          | .error .missing =>
            .error (.notFound ("No content stored for chapter ".toList ++
              Text.ofNat c.index.toNat ++ " of ".toList ++ c.bookUrl))
          | .error e => .error (.io e.message), d) := by
  cases hpath : s.contentPath c with
  | error e => simp [load, hpath, on_bind]
  | ok path =>
      simp only [load, hpath, on_bind, on_lift, on_readText?]
      cases d.readText path with
      | ok t => rfl
      | error e => cases e <;> rfl

theorem load_eq_ok_iff (c : Chapter) (t : Text) : (on (s.load c) d).1 = .ok t ↔
    ∃ path, s.contentPath c = .ok path ∧ d.readText path = .ok t := by
  rw [on_load]
  cases s.contentPath c with
  | error e => simp
  | ok path =>
      cases hr : d.readText path with
      | ok t => simp [hr]
      | error e => cases e <;> simp [hr]

/-! ### Catalogs -/

/-- **Reading a catalog** leaves the disk as it is. -/
theorem on_readCatalog (path : Text) : on (readCatalog path) d = (d.readCatalog path, d) := by
  rw [readCatalog, on_bind, on_readText?, Disk.readCatalog]
  cases d.readText path with
  | ok t => cases ht : Catalog.ofText? t <;> simp [ht]
  | error e => cases e <;> rfl

/-- **Updating a catalog** is reading it and storing it with one more entry. -/
theorem on_update (now : Timestamp) (c : Chapter) :
    on (s.update now c) d =
      match s.directory c.bookUrl with
      | .error e => (.error e, d)
      | .ok directory =>
        let path := join directory catalogName
        match d.readCatalog path with
        | .error e => (.error e, d)
        | .ok catalog =>
          match d.store directory path
            (Utf8.encode (catalog.insert (Entry.ofChapter now c)).text) with
          | (.ok _, d) => (.ok ⟨.debug, "updated catalog entry",
              [("chapter", Text.ofNat c.index.toNat), ("title", c.title)]⟩, d)
          | (.error e, d) => (.error (.io e.message), d) := by
  rw [update, on_bind, on_lift, catalogPath]
  cases hdir : s.directory c.bookUrl with
  | error e => rfl
  | ok directory =>
      simp only [Except.map]
      rw [on_bind, on_readCatalog]
      cases d.readCatalog (join directory catalogName) with
      | error e => rfl
      | ok catalog =>
          simp only
          rw [on_bind, on_lift]
          exact on_store d directory _ _ _

/-- **Loading a catalog** is reading it if it is there. -/
theorem on_loadCatalog (address : Text) :
    on (s.loadCatalog address) d =
      (match s.catalogPath address with
        | .error e => .error e
        | .ok path =>
          match d.isThere path with
          | .ok true => d.readCatalog path
          | .ok false => .error (.notFound ("No catalog stored for ".toList ++ address))
          | .error e => .error (.io e.message), d) := by
  rw [loadCatalog, on_bind, on_lift]
  cases s.catalogPath address with
  | error e => rfl
  | ok path =>
      simp only
      rw [on_bind, on_ofDisk]
      simp only [Files.isThere]
      cases d.isThere path with
      | error e => rfl
      | ok there =>
          cases there with
          | false => rfl
          | true => exact on_readCatalog d path

theorem loadCatalog_eq_ok_iff (address : Text) (catalog : Catalog) :
    (on (s.loadCatalog address) d).1 = .ok catalog ↔
      ∃ path t, s.catalogPath address = .ok path ∧ d.readText path = .ok t ∧
        Catalog.ofText? t = some catalog := by
  rw [on_loadCatalog]
  cases s.catalogPath address with
  | error e => simp
  | ok path =>
      simp only [Except.ok.injEq, exists_and_left, exists_eq_left']
      constructor
      · intro h
        split at h
        · next hthere =>
            unfold Disk.readCatalog at h
            split at h
            · next t ht => exact ⟨t, ht, by split at h <;> simp_all⟩
            · next hmissing => exact absurd hmissing (Disk.readText_ne_missing hthere)
            · cases h
        · cases h
        · cases h
      · rintro ⟨t, ht, hcatalog⟩
        obtain ⟨bytes, hbytes, -⟩ := Disk.readText_eq_ok_iff.1 ht
        simp [Disk.isThere_of_read hbytes, Disk.readCatalog, ht, hcatalog]

/-! ### What stays -/

variable {s : Shelf} {d : Disk} {c : Chapter} {directory : Text}

/-- **Storing a text touches no file but that of the chapter.** -/
theorem keeps_save (hr : d.Rooted) (h : s.directory c.bookUrl = .ok directory) (book : Book)
    (content : Text) :
    Disk.Keeps (d.placeOf directory ++ [contentName c.index]) d
      (on (s.save book c content) d).2 := by
  have hkeeps := hr.keeps_store (ordinary_contentName c.index) directory (Utf8.encode content)
  rw [on_save, h]
  simp only
  split <;> simp_all

/-- **Updating a catalog touches no file but the catalog.** -/
theorem keeps_update (hr : d.Rooted) (h : s.directory c.bookUrl = .ok directory)
    (now : Timestamp) :
    Disk.Keeps (d.placeOf directory ++ [catalogName]) d (on (s.update now c) d).2 := by
  rw [on_update, h]
  simp only
  split
  · exact hr.keeps _
  · next catalog _ =>
      have hkeeps := hr.keeps_store ordinary_catalogName directory
        (Utf8.encode (catalog.insert (Entry.ofChapter now c)).text)
      split <;> simp_all

end Shelf

end ChapterAssembly
