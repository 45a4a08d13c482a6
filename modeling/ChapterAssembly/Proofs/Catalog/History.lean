/-
**Histories of a catalog.**

Every update of a catalog reads the whole file and writes it anew.  Still an entry stays as it was
when it was written until its index is updated again, because reading what was written loses nothing
but blank characters at the ends of texts, and these are lost the first time.

Main definitions:

* `Disk.Lists` — a catalog has an entry for an index.

Main results:

* `Shelf.loadCatalog_inTurn_cons` — the catalog after some updates of one book;
* `Shelf.ok_inTurn` — where a catalog can be read, all updates of it succeed;
* `Disk.Lists.run` — **the last entry of an index stays**, whatever is updated later;
* `Shelf.loadCatalog_inTurn` — **one entry for each index that was updated, as it was read right
  after its last update**.
-/

import ChapterAssembly.Proofs.Catalog.Update

set_option relaxedAutoImplicit false
set_option autoImplicit false

namespace ChapterAssembly

open Storing (on)

namespace Shelf

variable {s : Shelf} {d d' : Disk} {u : Update} {us : List Update} {event : Event}
  {directory address path : Text} {c : Catalog}

theorem catalogPath_eq_ok (h : s.directory address = .ok directory) :
    s.catalogPath address = .ok (join directory catalogName) := by
  rw [catalogPath, h]
  rfl

/-! ### Updates of one book -/

/-- An update that succeeds leaves the catalog that was read with one more entry. -/
theorem catalogAt?_update (hdir : s.directory u.chapter.bookUrl = .ok directory)
    (hu : u.moment.Kept) (h : u.run s d = (.ok event, d'))
    (hc : d.readCatalog (join directory catalogName) = .ok c) :
    ∃ p, d'.resolve (join directory catalogName) = .ok p ∧
      d'.catalogAt? p = some ((c.insert u.entry).map Entry.trimmed) := by
  obtain ⟨path, c', hpath, hc', hp, hcatalog, -⟩ := Update.catalogAt?_of_ok hu h
  obtain rfl := Except.ok.inj ((catalogPath_eq_ok hdir).symm.trans hpath)
  obtain rfl := Except.ok.inj (hc.symm.trans hc')
  exact ⟨_, hp, hcatalog⟩

/-- **The catalog after some updates of one book**, one at least. -/
theorem loadCatalog_inTurn_cons (haddress : s.directory address = .ok directory)
    (hdir : ∀ v ∈ u :: us, s.directory v.chapter.bookUrl = .ok directory)
    (hkept : ∀ v ∈ u :: us, v.moment.Kept)
    (hok : ∀ r ∈ (s.inTurn d (u :: us)).1, ∃ event, r = .ok event)
    (hc : d.readCatalog (join directory catalogName) = .ok c) :
    (on (s.loadCatalog address) (s.inTurn d (u :: us)).2).1 =
      .ok (c.revised ((u :: us).map Update.entry)) := by
  induction us generalizing d u c with
  | nil =>
      obtain ⟨event, hevent⟩ := hok _ List.mem_cons_self
      obtain ⟨p, hp, hcatalog⟩ := catalogAt?_update (hdir u List.mem_cons_self)
        (hkept u List.mem_cons_self) (Prod.ext hevent rfl) hc
      exact loadCatalog_eq_ok_iff_catalogAt?.2 ⟨_, p, catalogPath_eq_ok haddress, hp, hcatalog⟩
  | cons v us ih =>
      obtain ⟨event, hevent⟩ := hok _ List.mem_cons_self
      obtain ⟨p, hp, hcatalog⟩ := catalogAt?_update (hdir u List.mem_cons_self)
        (hkept u List.mem_cons_self) (Prod.ext hevent rfl) hc
      exact ih (fun w hw => hdir w (List.mem_cons_of_mem u hw))
        (fun w hw => hkept w (List.mem_cons_of_mem u hw))
        (fun r hr => hok r (List.mem_cons_of_mem _ hr)) (Disk.readCatalog_of_catalogAt? hp hcatalog)

/-- **Where a catalog can be read, all updates of it succeed.** -/
theorem ok_inTurn {p : Place} (hdir : ∀ v ∈ us, s.directory v.chapter.bookUrl = .ok directory)
    (hkept : ∀ v ∈ us, v.moment.Kept) (hp : d.resolve (join directory catalogName) = .ok p)
    (hc : d.catalogAt? p = some c) : ∀ r ∈ (s.inTurn d us).1, ∃ event, r = .ok event := by
  induction us generalizing d p c with
  | nil => simp
  | cons u us ih =>
      rw [List.forall_mem_cons] at hdir hkept
      obtain ⟨event, d', hrun⟩ := Update.run_eq_ok hdir.1 hp hc
      obtain ⟨p', hp', hc'⟩ := catalogAt?_update hdir.1 hkept.1 hrun
        (Disk.readCatalog_of_catalogAt? hp hc)
      rw [inTurn_cons, hrun]
      exact List.forall_mem_cons.2 ⟨⟨event, rfl⟩, ih hdir.2 hkept.2 hp' hc'⟩

end Shelf

/-! ### The last entry of an index -/

/-- **A path leads to a place, and the catalog there has an entry for an index.** -/
structure Disk.Lists (d : Disk) (path : Text) (p : Place) (i : UInt32) (e : Entry) : Prop where
  resolve : d.resolve path = .ok p
  entry : ∃ c : Catalog, d.catalogAt? p = some c ∧ c.find? (·.index = i) = some e

namespace Disk.Lists

variable {s : Shelf} {d d' : Disk} {u : Update} {address path : Text} {p w : Place} {i : UInt32}
  {e : Entry} {event : Event} {r : Except StorageError Event}

/-- What is listed is loaded. -/
theorem loaded (h : d.Lists path p i e) (hpath : s.catalogPath address = .ok path) :
    ∃ c : Catalog, (on (s.loadCatalog address) d).1 = .ok c ∧
      c.find? (·.index = i) = some e := by
  obtain ⟨c, hc, he⟩ := h.entry
  exact ⟨c, Shelf.loadCatalog_eq_ok_iff_catalogAt?.2 ⟨path, p, hpath, h.resolve, hc⟩, he⟩

theorem of_grows (h : d.Lists path p i e) (hgrows : Grows w d d') (hw : p ≠ w) :
    d'.Lists path p i e := by
  obtain ⟨c, hc, he⟩ := h.entry
  exact ⟨hgrows.resolve h.resolve, c, (hgrows.catalogAt? hw).trans hc, he⟩

/-- An update that succeeds lists its entry, as it is read. -/
theorem of_ok (hu : u.moment.Kept) (h : u.run s d = (.ok event, d')) :
    ∃ path, s.catalogPath u.chapter.bookUrl = .ok path ∧
      d'.Lists path (d.placeOf path) u.chapter.index u.entry.trimmed := by
  obtain ⟨path, c, hpath, -, hresolve, hcatalog, -⟩ := Update.catalogAt?_of_ok hu h
  exact ⟨path, hpath, hresolve, _, hcatalog, Catalog.find?_insert_self u.entry c⟩

/-- **An entry that was read stays**, unless an update succeeds that is about the same index in the
same file. -/
theorem run (h : d.Lists path p i e.trimmed) (hu : u.moment.Kept) (hrun : u.run s d = (r, d'))
    (hpath : s.catalogPath address = .ok path)
    (hother : ∀ event path', r = .ok event → s.catalogPath u.chapter.bookUrl = .ok path' →
      d.placeOf path' = p → u.chapter.index ≠ i) :
    d'.Lists path p i e.trimmed := by
  cases r with
  | error err =>
      -- a place away from the catalog: nothing was written anywhere
      exact h.of_grows (Update.grows_of_error hrun (p ++ [[]])) (by simp)
  | ok event =>
      obtain ⟨path', c', hpath', hread, hresolve, hcatalog, hgrows⟩ :=
        Update.catalogAt?_of_ok hu hrun
      by_cases hplace : d.placeOf path' = p
      · have hne : i ≠ u.entry.index := (hother event path' rfl hpath' hplace).symm
        obtain ⟨c, hc, he⟩ := h.entry
        have hc' : d.readCatalog path' = .ok c := Disk.readCatalog_of_catalogAt?
          (Shelf.resolve_of_placeOf hpath hpath' h.resolve hplace) hc
        obtain rfl := Except.ok.inj (hread.symm.trans hc')
        refine ⟨hgrows.resolve h.resolve, _, hplace ▸ hcatalog, ?_⟩
        rw [Catalog.find?_trimmed, Catalog.find?_insert, if_neg hne, he, Option.map_some,
          Entry.trimmed_trimmed]
      · exact h.of_grows hgrows (Ne.symm hplace)

end Disk.Lists

namespace Shelf

variable {s : Shelf} {d d' : Disk} {u : Update} {us : List Update} {directory address : Text}

/-! ### The catalog of a book -/

/-- **One entry for each index that was updated**, and in every field the one that was loaded right
after the last update of its index: after some updates of one book that succeed, whose catalog was
not there before.  What is loaded before the first update is that there is no catalog. -/
theorem loadCatalog_inTurn (hnone : d.isThere (join directory catalogName) = .ok false)
    (haddress : s.directory address = .ok directory)
    (hdir : ∀ u ∈ us, s.directory u.chapter.bookUrl = .ok directory)
    (hkept : ∀ u ∈ us, u.moment.Kept)
    (hok : ∀ r ∈ (s.inTurn d us).1, ∃ event, r = .ok event) :
    ∃ c : Catalog,
      ((on (s.loadCatalog address) (s.inTurn d us).2).1 = .ok c ∨
        us = [] ∧ c = [] ∧ (on (s.loadCatalog address) (s.inTurn d us).2).1 =
          .error (.notFound ("No catalog stored for ".toList ++ address))) ∧
      c.Pairwise (fun a b => a.index < b.index) ∧
      (∀ i, i ∈ c.map (·.index) ↔ ∃ u ∈ us, u.chapter.index = i) ∧
      ∀ before u later, us = before ++ u :: later →
        (∀ v ∈ later, v.chapter.index ≠ u.chapter.index) →
        ∃ c' : Catalog, (on (s.loadCatalog address) (s.inTurn d (before ++ [u])).2).1 = .ok c' ∧
          ∀ e, e.index = u.chapter.index → (e ∈ c ↔ e ∈ c') := by
  have hempty := Disk.readCatalog_of_isThere hnone
  refine ⟨Catalog.revised [] (us.map Update.entry), ?_,
    Catalog.Ordered.revised List.Pairwise.nil _, fun i => ?_, ?_⟩
  · cases us with
    | nil =>
        refine .inr ⟨rfl, rfl, ?_⟩
        rw [on_loadCatalog, catalogPath_eq_ok haddress]
        simp only [inTurn_nil, hnone]
    | cons u us => exact .inl (loadCatalog_inTurn_cons haddress hdir hkept hok hempty)
  · rw [Catalog.mem_index_revised]
    simp
  · rintro before u later rfl hlater
    rw [show before ++ u :: later = (before ++ [u]) ++ later by simp] at hdir hkept hok
    rw [inTurn_append] at hok
    have hload : (on (s.loadCatalog address) (s.inTurn d (before ++ [u])).2).1 =
        .ok (Catalog.revised [] ((before ++ [u]).map Update.entry)) := by
      obtain ⟨v, vs, hvs⟩ := List.exists_cons_of_ne_nil (show before ++ [u] ≠ [] by simp)
      rw [hvs] at hdir hkept hok ⊢
      exact loadCatalog_inTurn_cons haddress (fun w hw => hdir w (List.mem_append_left _ hw))
        (fun w hw => hkept w (List.mem_append_left _ hw))
        (fun r hr => hok r (List.mem_append_left _ hr)) hempty
    -- the entry with the index is the last one, whatever comes later
    have hlast : ∀ e later, e.index = u.chapter.index →
        (∀ v ∈ later, v.chapter.index ≠ u.chapter.index) →
        (e ∈ Catalog.revised [] ((before ++ u :: later).map Update.entry) ↔
          e = u.entry.trimmed) := by
      intro e later he hlater
      rw [List.map_append, List.map_cons]
      exact Catalog.Ordered.mem_revised_last List.Pairwise.nil (by simpa using hlater) he
    exact ⟨_, hload, fun e he => (hlast e later he hlater).trans
      (hlast e [] he (by simp)).symm⟩

/-- A moment. -/
def leapDay : Timestamp :=
  ⟨⟨2024, 2, 29, by decide, by decide⟩, 0, 0, by decide, by decide, by decide⟩

/-- An update that gives a chapter a title. -/
def titled (t : Text) : Update := ⟨leapDay, { bookUrl := "x://h/1", title := t }⟩

theorem directory_titled (t : Text) :
    ({} : Shelf).directory (titled t).chapter.bookUrl = .ok ".folio/books/h/1" :=
  show ({} : Shelf).directory "x://h/1" = _ by decide

theorem kept_titled (t : Text) : (titled t).moment.Kept := show leapDay.Kept by decide

/-- On a disk without anything, the update succeeds. -/
theorem run_titled (t : Text) : ∃ event d', (titled t).run {} {} = (.ok event, d') := by
  simp only [Update.run, on_update, directory_titled]
  exact ⟨_, _, rfl⟩

/-- On a disk without anything, all such updates succeed. -/
theorem ok_titled (ts : List Text) :
    ∀ r ∈ (({} : Shelf).inTurn {} (ts.map titled)).1, ∃ event, r = .ok event := by
  cases ts with
  | nil => simp
  | cons t ts =>
      obtain ⟨event, d', hrun⟩ := run_titled t
      obtain ⟨p, hp, hc⟩ := catalogAt?_update (directory_titled t) (kept_titled t) hrun
        (Disk.readCatalog_of_isThere rfl)
      rw [List.map_cons, inTurn_cons, hrun]
      refine List.forall_mem_cons.2 ⟨⟨event, rfl⟩, ok_inTurn ?_ ?_ hp hc⟩
      · exact List.forall_mem_map.2 fun t _ => directory_titled t
      · exact List.forall_mem_map.2 fun t _ => kept_titled t

/-- The catalog of a book with one chapter, which was revised. -/
theorem loadCatalog_inTurn_titled :
    let us : List Update := [("One" : Text), "One, revised"].map titled
    (∀ r ∈ (({} : Shelf).inTurn {} us).1, ∃ event, r = .ok event) ∧
    ∃ c : Catalog, (on (({} : Shelf).loadCatalog "x://h/1") (({} : Shelf).inTurn {} us).2).1 =
      .ok c ∧ ∀ i, i ∈ c.map (·.index) ↔ i = 0 := by
  have hok := ok_titled ["One", "One, revised"]
  obtain ⟨c, hload, -, hindex, -⟩ := loadCatalog_inTurn (d := {}) (s := {}) rfl
    (directory_titled "One") (List.forall_mem_map.2 fun t _ => directory_titled t)
    (List.forall_mem_map.2 fun t _ => kept_titled t) hok
  refine ⟨hok, c, hload.resolve_right (by simp), fun i => (hindex i).trans ?_⟩
  simp [titled, eq_comm]

end Shelf

end ChapterAssembly
