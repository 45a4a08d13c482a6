/-
**Updates of catalogs on a disk.**

An update reads the catalog of its book, puts its entry in and writes the catalog.  What stands in
the file then is read with the new entry, and everything in it trimmed.  Catalogs are looked at by
their place here, since the paths of two books may lead to one place.

Main definitions:

* `Update` — an update of a catalog: a chapter, and the moment of its entry;
* `Disk.catalogAt?` — the catalog in the file at a place;
* `Shelf.inTurn` — updates one after the other, with what comes of them.

Main results:

* `Shelf.loadCatalog_eq_ok_iff_catalogAt?` — which catalog is loaded;
* `Shelf.resolve_of_placeOf` — all paths of catalogs that lead to a place do so on the same disks;
* `Update.catalogAt?_of_ok` — **what an update that succeeds leaves in the file**;
* `Update.run_eq_ok` — an update of a catalog that can be read succeeds;
* `Update.grows_of_error` — an update that fails touches no file;
* `Shelf.inTurn_append` — updates one part after the other.
-/

import ChapterAssembly.Proofs.Catalog.Insert
import ChapterAssembly.Proofs.Growth
import ChapterAssembly.Proofs.Text.Utf8
import ChapterAssembly.Proofs.Url.Parts

set_option relaxedAutoImplicit false
set_option autoImplicit false

namespace ChapterAssembly

open Storing (on)

/-! ### Catalogs by their places -/

namespace Disk

variable {d d' : Disk} {p : Place} {path t : Text} {c : Catalog}

/-- The catalog in the file at a place. -/
def catalogAt? (d : Disk) (p : Place) : Option Catalog :=
  match d.node? p with
  | some (.file bytes) => (Utf8.decode? bytes).bind Catalog.ofText?
  | _ => none

theorem readText_eq_ok_iff_node? : d.readText path = .ok t ↔
    ∃ p bytes, d.resolve path = .ok p ∧ d.node? p = some (.file bytes) ∧
      Utf8.decode? bytes = some t := by
  rw [readText_eq_ok_iff]
  unfold read
  cases hp : d.resolve path with
  | error e => simp [bind, Except.bind]
  | ok p =>
      cases hn : d.node? p with
      | none => simp [bind, Except.bind, hn]
      | some n => cases n <;> simp [bind, Except.bind, hn]

theorem catalogAt?_eq_some_iff : d.catalogAt? p = some c ↔
    ∃ bytes t, d.node? p = some (.file bytes) ∧ Utf8.decode? bytes = some t ∧
      Catalog.ofText? t = some c := by
  unfold catalogAt?
  cases hn : d.node? p with
  | none => simp
  | some n => cases n <;> simp [Option.bind_eq_some_iff]

/-- A catalog that is read stands in its file, or there is no file and the catalog is empty. -/
theorem catalogAt?_of_readCatalog (h : d.readCatalog path = .ok c) :
    (∃ p, d.resolve path = .ok p ∧ d.catalogAt? p = some c) ∨
      d.readText path = .error .missing ∧ c = [] := by
  unfold readCatalog at h
  split at h
  · next t ht =>
      obtain ⟨p, bytes, hp, hn, hb⟩ := readText_eq_ok_iff_node?.1 ht
      split at h
      · next c' hc =>
          cases h
          exact .inl ⟨p, hp, catalogAt?_eq_some_iff.2 ⟨bytes, t, hn, hb, hc⟩⟩
      · cases h
  · next hmissing =>
      cases h
      exact .inr ⟨hmissing, rfl⟩
  · cases h

/-- Where no file is, the catalog is empty. -/
theorem readCatalog_of_isThere (h : d.isThere path = .ok false) : d.readCatalog path = .ok [] := by
  have hmissing : d.readText path = .error .missing := by
    unfold isThere at h
    unfold readText read
    cases hp : d.resolve path with
    | error e => cases e <;> simp_all [bind, Except.bind]
    | ok p => cases hn : d.node? p <;> simp_all [bind, Except.bind]
  rw [readCatalog, hmissing]

theorem readCatalog_of_catalogAt? (hp : d.resolve path = .ok p) (h : d.catalogAt? p = some c) :
    d.readCatalog path = .ok c := by
  obtain ⟨bytes, t, hn, hb, hc⟩ := catalogAt?_eq_some_iff.1 h
  unfold readCatalog
  rw [readText_eq_ok_iff_node?.2 ⟨p, bytes, hp, hn, hb⟩]
  simp only [hc]

/-- **Every entry that is read can be written.** -/
theorem kept_of_catalogAt? (h : d.catalogAt? p = some c) : ∀ e ∈ c, e.updatedAt.Kept := by
  obtain ⟨_, _, _, _, hc⟩ := catalogAt?_eq_some_iff.1 h
  exact Catalog.kept_of_ofText? hc

theorem kept_of_readCatalog (h : d.readCatalog path = .ok c) : ∀ e ∈ c, e.updatedAt.Kept := by
  obtain ⟨p, -, hp⟩ | ⟨-, rfl⟩ := catalogAt?_of_readCatalog h
  · exact kept_of_catalogAt? hp
  · simp

/-- A catalog in a file that is not touched stays. -/
theorem Grows.catalogAt? {w : Place} (h : Grows w d d') (hp : p ≠ w) :
    d'.catalogAt? p = d.catalogAt? p := by
  ext c
  simp only [catalogAt?_eq_some_iff, h.file p _ hp]

end Disk

/-- **Which catalog is loaded.** -/
theorem Shelf.loadCatalog_eq_ok_iff_catalogAt? {s : Shelf} {d : Disk} {address : Text}
    {c : Catalog} : (on (s.loadCatalog address) d).1 = .ok c ↔
      ∃ path p, s.catalogPath address = .ok path ∧ d.resolve path = .ok p ∧
        d.catalogAt? p = some c := by
  rw [loadCatalog_eq_ok_iff]
  constructor
  · rintro ⟨path, t, hpath, ht, hc⟩
    obtain ⟨p, bytes, hp, hn, hb⟩ := Disk.readText_eq_ok_iff_node?.1 ht
    exact ⟨path, p, hpath, hp, Disk.catalogAt?_eq_some_iff.2 ⟨bytes, t, hn, hb, hc⟩⟩
  · rintro ⟨path, p, hpath, hp, h⟩
    obtain ⟨bytes, t, hn, hb, hc⟩ := Disk.catalogAt?_eq_some_iff.1 h
    exact ⟨path, t, hpath, Disk.readText_eq_ok_iff_node?.2 ⟨p, bytes, hp, hn, hb⟩, hc⟩

/-! ### The way to a catalog -/

namespace Shelf

variable {s : Shelf} {d : Disk} {p : Place} {address address' path path' : Text}

/-- A catalog stands in the directory of its book. -/
theorem exists_directory (h : s.catalogPath address = .ok path) :
    ∃ directory, s.directory address = .ok directory ∧ path = join directory catalogName := by
  unfold catalogPath at h
  cases hdir : s.directory address with
  | error e => simp [hdir, Except.map] at h
  | ok directory => exact ⟨directory, rfl, by simpa [hdir, Except.map, eq_comm] using h⟩

/-- The names on the way to a catalog: those of the base, a host and a name. -/
theorem names_of_catalogPath (h : s.catalogPath address = .ok path) : ∃ host name,
    host ≠ [] ∧ '/' ∉ host ∧ Disk.Ordinary name ∧
      Disk.names path = Disk.parts s.base ++ [host, name, catalogName] ∧
      ∀ d : Disk, d.start path = d.start s.base := by
  obtain ⟨directory, hdir, rfl⟩ := exists_directory h
  obtain ⟨u, host, hu, hhost, rfl⟩ := directory_eq_ok_iff.1 hdir
  obtain ⟨hne, hslash⟩ := Url.host_of_parse hu hhost
  have hname := ordinary_nameOf u
  have hfile := ordinary_catalogName
  refine ⟨host, nameOf u, hne, hslash, hname, ?_, fun d => ?_⟩
  · rw [Disk.names_join hfile.ne_nil hfile.no_slash, Disk.parts_join hname.ne_nil hname.no_slash,
      Disk.parts_join hne hslash]
    simp
  · rw [d.start_join hfile.no_slash, d.start_join hname.no_slash, d.start_join hslash]

/-- The way to a catalog: over the base, and then over a host and a name. -/
theorem resolve_eq_ok_iff {ns : List Text} {host name : Text} (hname : Disk.Ordinary name)
    (hnames : Disk.names path = ns ++ [host, name, catalogName]) : d.resolve path = .ok p ↔
      ∃ q, d.walk (d.start path) ns = .ok q ∧ d.node? q = some .directory ∧ Disk.Fits host ∧
        d.node? (Disk.onward q host) = some .directory ∧ Disk.Fits name ∧
        d.node? (Disk.onward q host ++ [name]) = some .directory ∧ Disk.Fits catalogName ∧
        p = Disk.onward q host ++ [name, catalogName] := by
  have hpath : path ≠ [] := by
    have hlast : Disk.names path = (ns ++ [host, name]) ++ [catalogName] := by simp [hnames]
    exact Disk.ne_nil_of_names hlast
  rw [Disk.resolve_eq_walk hpath, hnames, Disk.walk_append]
  cases d.walk (d.start path) ns with
  | error e => simp [bind, Except.bind]
  | ok q =>
      change d.walk q [host, name, catalogName] = .ok p ↔ _
      rw [Disk.walk_cons_eq_ok_iff, Disk.walk_cons_eq_ok_iff, Disk.walk_cons_eq_ok_iff,
        Disk.onward_of_ordinary hname, Disk.onward_of_ordinary ordinary_catalogName, Disk.walk]
      simp [eq_comm]

/-- **Two paths of catalogs that lead to one place lead there both**, if one does. -/
theorem resolve_of_placeOf (h : s.catalogPath address = .ok path)
    (h' : s.catalogPath address' = .ok path') (hp : d.resolve path = .ok p)
    (hplace : d.placeOf path' = p) : d.resolve path' = .ok p := by
  obtain ⟨host, name, hne, hslash, hname, hnames, hstart⟩ := names_of_catalogPath h
  obtain ⟨host', name', hne', hslash', hname', hnames', hstart'⟩ := names_of_catalogPath h'
  obtain ⟨q, hq, hdir, hhost, hdir₁, hfit, hdir₂, hfile, rfl⟩ :=
    (resolve_eq_ok_iff hname hnames).1 hp
  rw [hstart] at hq
  have hgoal : d.placeOf path' = Disk.onward q host' ++ [name', catalogName] := by
    rw [Disk.placeOf, hnames', hstart', Disk.goal_append, ← (Disk.eq_goal_of_walk hq).1]
    simp [Disk.goal, Disk.onward_of_ordinary hname', Disk.onward_of_ordinary ordinary_catalogName]
  rw [hgoal] at hplace
  obtain ⟨honward, hrest⟩ := List.append_inj' hplace (by simp)
  obtain rfl : name' = name := by simpa using hrest
  refine (resolve_eq_ok_iff hname' hnames').2 ⟨q, (hstart' d).symm ▸ hq, hdir, ?_,
    honward ▸ hdir₁, hfit, honward ▸ hdir₂, hfile, by rw [honward]⟩
  -- two names that lead down to one place are the same
  by_cases hdot : host' = "."
  · exact .inl hdot
  · by_cases hdots : host' = ".."
    · exact .inr (.inl hdots)
    · rw [Disk.onward_of_ordinary ⟨hne', hslash', hdot, hdots⟩] at honward
      have hdown : host = host' := by
        unfold Disk.onward at honward
        split at honward
        · simp at honward
        · split at honward
          · have hlength := congrArg List.length honward
            simp only [List.length_append, List.length_singleton, List.length_dropLast] at hlength
            omega
          · simpa using honward.symm
      exact hdown ▸ hhost

end Shelf

/-! ### One update -/

/-- An update of a catalog: a chapter, and the moment of its entry. -/
structure Update where
  moment : Timestamp
  chapter : Chapter
deriving DecidableEq

namespace Update

variable {u : Update} {s : Shelf} {d d' : Disk} {event : Event} {path : Text}

/-- The entry that an update writes. -/
def entry (u : Update) : Entry := Entry.ofChapter u.moment u.chapter

@[simp] theorem index_entry (u : Update) : u.entry.index = u.chapter.index := rfl

/-- What an update does on a disk. -/
def run (u : Update) (s : Shelf) (d : Disk) : Except StorageError Event × Disk :=
  on (s.update u.moment u.chapter) d

/-- What an update does once it has read the catalog: it stores it with its entry. -/
theorem run_of_readCatalog {directory : Text} {c : Catalog}
    (hdir : s.directory u.chapter.bookUrl = .ok directory)
    (hc : d.readCatalog (Shelf.join directory Shelf.catalogName) = .ok c) :
    u.run s d = match d.store directory (Shelf.join directory Shelf.catalogName)
        (Utf8.encode (c.insert u.entry).text) with
      | (.ok _, d) => (.ok ⟨.debug, "updated catalog entry",
          [("chapter", Text.ofNat u.chapter.index.toNat), ("title", u.chapter.title)]⟩, d)
      | (.error e, d) => (.error (.io e.message), d) := by
  rw [run, Shelf.on_update, hdir]
  simp only [hc]
  rfl

/-- **What an update that succeeds leaves in the file**: the catalog that was read with the entry,
and everything trimmed. -/
theorem catalogAt?_of_ok (hu : u.moment.Kept) (h : u.run s d = (.ok event, d')) :
    ∃ path c, s.catalogPath u.chapter.bookUrl = .ok path ∧ d.readCatalog path = .ok c ∧
      d'.resolve path = .ok (d.placeOf path) ∧
      d'.catalogAt? (d.placeOf path) = some ((c.insert u.entry).map Entry.trimmed) ∧
      Disk.Grows (d.placeOf path) d d' := by
  rw [run, Shelf.on_update] at h
  split at h
  · cases h
  · next directory hdir =>
      simp only at h
      split at h
      · cases h
      · next c hc =>
          split at h
          · next v d₁ hstore =>
              cases h
              obtain ⟨hgrows, hresolve, hnode⟩ := Disk.file_of_store hstore
              have hkept : ∀ e ∈ c.insert u.entry, e.updatedAt.Kept := fun e he =>
                (Catalog.eq_or_mem_of_mem_insert he).elim (fun h => h ▸ hu)
                  (Disk.kept_of_readCatalog hc e)
              exact ⟨_, c, by rw [Shelf.catalogPath, hdir]; rfl, hc, hresolve,
                Disk.catalogAt?_eq_some_iff.2 ⟨_, _, hnode, Utf8.decode?_encode _,
                  Catalog.ofText?_text hkept⟩, hgrows⟩
          · cases h

/-- **Where a catalog is and can be read, an update of it succeeds.** -/
theorem run_eq_ok {directory : Text} {p : Place} {c : Catalog}
    (hdir : s.directory u.chapter.bookUrl = .ok directory)
    (hp : d.resolve (Shelf.join directory Shelf.catalogName) = .ok p)
    (hc : d.catalogAt? p = some c) : ∃ event d', u.run s d = (.ok event, d') := by
  obtain ⟨bytes, t, hnode, -, -⟩ := Disk.catalogAt?_eq_some_iff.1 hc
  have hstore := Disk.store_of_resolve Shelf.ordinary_catalogName hp (by simp [hnode])
    (Utf8.encode (c.insert u.entry).text)
  have hentry : Entry.ofChapter u.moment u.chapter = u.entry := rfl
  simp only [run, Shelf.on_update, hdir, Disk.readCatalog_of_catalogAt? hp hc, hentry, hstore]
  exact ⟨_, _, rfl⟩

/-- **An update that fails touches no file.** -/
theorem grows_of_error {e : StorageError} (h : u.run s d = (.error e, d')) (w : Place) :
    Disk.Grows w d d' := by
  rw [run, Shelf.on_update] at h
  split at h
  · cases h
    exact .refl w d
  · simp only at h
    split at h
    · cases h
      exact .refl w d
    · split at h
      · cases h
      · next hstore =>
          cases h
          exact Disk.grows_of_store_error hstore w

/-- Paths lead to the same places as before. -/
theorem placeOf_run (hu : u.moment.Kept) (path : Text) :
    (u.run s d).2.placeOf path = d.placeOf path := by
  obtain ⟨r, d', hrun⟩ : ∃ r d', u.run s d = (r, d') := ⟨_, _, rfl⟩
  rw [hrun]
  cases r with
  | error e => exact (grows_of_error hrun []).placeOf path
  | ok event =>
      obtain ⟨_, _, _, _, _, _, hgrows⟩ := catalogAt?_of_ok hu hrun
      exact hgrows.placeOf path

end Update

/-! ### Updates in turn -/

namespace Shelf

/-- **Updates one after the other**: what comes of each, and the disk that is left. -/
def inTurn (s : Shelf) (d : Disk) : List Update → List (Except StorageError Event) × Disk
  | [] => ([], d)
  | u :: us =>
    let (r, d) := u.run s d
    let (rs, d) := inTurn s d us
    (r :: rs, d)

variable (s : Shelf) (d : Disk) (u : Update) (us vs : List Update)

@[simp] theorem inTurn_nil : s.inTurn d [] = ([], d) := rfl

@[simp] theorem inTurn_cons : s.inTurn d (u :: us) =
    ((u.run s d).1 :: (s.inTurn (u.run s d).2 us).1, (s.inTurn (u.run s d).2 us).2) := rfl

theorem inTurn_append : s.inTurn d (us ++ vs) =
    ((s.inTurn d us).1 ++ (s.inTurn (s.inTurn d us).2 vs).1,
      (s.inTurn (s.inTurn d us).2 vs).2) := by
  induction us generalizing d with
  | nil => rfl
  | cons u us ih => simp [ih]

end Shelf

end ChapterAssembly
