/-
**Chapters rebuilt from a catalog.**

An entry holds all that there is to know of a chapter but the book that it belongs to.  Written and
read, it stands for the chapter without the blank characters at the ends of its texts; so it stands
for the very chapter that was stored exactly if there are none.

Main definitions:

* `Shelf.Bare` — no book has a catalog;
* `Shelf.InOrder` — every catalog that can be read is in order.

Main results:

* `Shelf.InOrder.inTurn` — updates of any books, whether they succeed or not, leave every catalog in
  order;
* `Shelf.InOrder.entry_of_ok` — the one entry with the index of a chapter that was stored;
* `Shelf.rebuilt_iff` — **it is about the very chapter if and only if no text of that has a blank
  character at an end**;
* `Shelf.not_rebuilt_blank` — a chapter that is not rebuilt.
-/

import ChapterAssembly.Proofs.Catalog.History

set_option relaxedAutoImplicit false
set_option autoImplicit false

namespace ChapterAssembly

open Storing (on)

variable {s : Shelf} {d d' : Disk} {u : Update} {us : List Update} {event : Event}
  {address path : Text} {c : Catalog}

namespace Shelf

/-! ### Catalogs of all books -/

/-- **No book has a catalog.** -/
def Bare (s : Shelf) (d : Disk) : Prop :=
  ∀ address path bytes, s.catalogPath address = .ok path →
    d.node? (d.placeOf path) ≠ some (.file bytes)

/-- **Every catalog that can be read is in order.** -/
def InOrder (s : Shelf) (d : Disk) : Prop :=
  ∀ address path c, s.catalogPath address = .ok path → d.catalogAt? (d.placeOf path) = some c →
    c.Ordered

theorem Bare.inOrder (h : s.Bare d) : s.InOrder d := by
  intro address path c hpath hc
  obtain ⟨bytes, -, hn, -, -⟩ := Disk.catalogAt?_eq_some_iff.1 hc
  exact absurd hn (h address path bytes hpath)

/-- A catalog that is read is in order, also one that is not there. -/
theorem InOrder.readCatalog (h : s.InOrder d) (hpath : s.catalogPath address = .ok path)
    (hc : d.readCatalog path = .ok c) : c.Ordered := by
  obtain ⟨p, hp, hcatalog⟩ | ⟨-, rfl⟩ := Disk.catalogAt?_of_readCatalog hc
  · exact h address path c hpath (Disk.eq_placeOf_of_resolve hp ▸ hcatalog)
  · exact List.Pairwise.nil

/-- **An update leaves every catalog in order**, whether it succeeds or not. -/
theorem InOrder.run (h : s.InOrder d) (hu : u.moment.Kept) : s.InOrder (u.run s d).2 := by
  intro address path c hpath hc
  obtain ⟨r, d', hrun⟩ : ∃ r d', u.run s d = (r, d') := ⟨_, _, rfl⟩
  rw [hrun] at hc
  cases r with
  | error e =>
      -- a place away from the catalog: nothing was written anywhere
      have hgrows := Update.grows_of_error hrun (d.placeOf path ++ [[]])
      rw [hgrows.placeOf, hgrows.catalogAt? (by simp)] at hc
      exact h address path c hpath hc
  | ok event =>
      obtain ⟨path', c', hpath', hread, -, hcatalog, hgrows⟩ := Update.catalogAt?_of_ok hu hrun
      rw [hgrows.placeOf] at hc
      by_cases hplace : d.placeOf path = d.placeOf path'
      · obtain rfl := Option.some_inj.1 ((hplace ▸ hc).symm.trans hcatalog)
        exact ((h.readCatalog hpath' hread).insert u.entry).trimmed
      · rw [hgrows.catalogAt? hplace] at hc
        exact h address path c hpath hc

/-- **So do updates one after the other**, of any books. -/
theorem InOrder.inTurn (h : s.InOrder d) (hus : ∀ u ∈ us, u.moment.Kept) :
    s.InOrder (s.inTurn d us).2 := by
  induction us generalizing d with
  | nil => exact h
  | cons u us ih =>
      rw [List.forall_mem_cons] at hus
      exact ih (h.run hus.1) hus.2

/-- **After an update that succeeds, one entry has the index of the chapter**: the new one, as it is
read. -/
theorem InOrder.entry_of_ok (h : s.InOrder d) (hu : u.moment.Kept)
    (hrun : u.run s d = (.ok event, d')) :
    ∃ c, (on (s.loadCatalog u.chapter.bookUrl) d').1 = .ok c ∧ Catalog.Ordered c ∧
      ∀ e, e ∈ c ∧ e.index = u.chapter.index ↔ e = u.entry.trimmed := by
  obtain ⟨path, c, hpath, hread, hresolve, hcatalog, -⟩ := Update.catalogAt?_of_ok hu hrun
  have hordered : Catalog.Ordered ((c.insert u.entry).map Entry.trimmed) :=
    ((h.readCatalog hpath hread).insert u.entry).trimmed
  refine ⟨_, loadCatalog_eq_ok_iff_catalogAt?.2 ⟨path, _, hpath, hresolve, hcatalog⟩, hordered,
    fun e => ?_⟩
  have hfind := Catalog.find?_insert_self u.entry c
  rw [u.index_entry] at hfind
  rw [← hordered.find?_eq_some_iff, hfind, Option.some_inj, eq_comm]

end Shelf

/-! ### Chapters -/

/-- The chapter that is rebuilt is the one that was stored if its texts are tight. -/
theorem Update.toChapter_trimmed_iff (u : Update) :
    u.entry.trimmed.toChapter u.chapter.bookUrl = u.chapter ↔
      Xml.IsTight u.chapter.url ∧ Xml.IsTight u.chapter.title ∧
        ∀ t ∈ u.chapter.reviewImage, Xml.IsTight t := by
  obtain ⟨moment, bookUrl, index, url, title, isVolume, image⟩ := u
  have himage : image.map Xml.trim = image ↔ ∀ t ∈ image, Xml.IsTight t := by
    cases image <;> simp [Xml.trim_eq_self_iff]
  simp [Entry.toChapter, Entry.trimmed, entry, Entry.ofChapter, Xml.trim_eq_self_iff, himage]

namespace Shelf

/-- **The entry that is read after an update is about the very chapter** that was stored if and only
if no text of that has a blank character at an end; and no other entry has its index.  This is so on
a disk that updates of any books, with or without success, have led to from one without catalogs. -/
theorem rebuilt_iff (hbare : s.Bare d) (hus : ∀ v ∈ us, v.moment.Kept) (hu : u.moment.Kept)
    (hrun : u.run s (s.inTurn d us).2 = (.ok event, d')) :
    ∃ c e, (on (s.loadCatalog u.chapter.bookUrl) d').1 = .ok c ∧ Catalog.Ordered c ∧
      (∀ f, f ∈ c ∧ f.index = u.chapter.index ↔ f = e) ∧ e = u.entry.trimmed ∧
      (e.toChapter u.chapter.bookUrl = u.chapter ↔
        Xml.IsTight u.chapter.url ∧ Xml.IsTight u.chapter.title ∧
          ∀ t ∈ u.chapter.reviewImage, Xml.IsTight t) := by
  have hinOrder : s.InOrder (s.inTurn d us).2 := hbare.inOrder.inTurn hus
  obtain ⟨c, hload, hordered, hentry⟩ := hinOrder.entry_of_ok hu hrun
  exact ⟨c, _, hload, hordered, hentry, rfl, u.toChapter_trimmed_iff⟩

/-- On a disk without anything no book has a catalog. -/
theorem bare_empty (s : Shelf) : s.Bare {} := by
  intro address path bytes _
  unfold Disk.node?
  split <;> simp

/-- A chapter whose title is a letter is rebuilt. -/
theorem rebuilt_iff_letter : ∃ event d' c e, (titled "x").run {} {} = (.ok event, d') ∧
    (on (({} : Shelf).loadCatalog "x://h/1") d').1 = .ok c ∧
    (∀ f, f ∈ c ∧ f.index = 0 ↔ f = e) ∧ e.toChapter "x://h/1" = (titled "x").chapter := by
  obtain ⟨event, d', hrun⟩ := run_titled "x"
  have hnone : ∀ v ∈ ([] : List Update), v.moment.Kept := by simp
  obtain ⟨c, e, hload, -, hentry, -, hchapter⟩ := rebuilt_iff (bare_empty {}) hnone
    (kept_titled "x") hrun
  exact ⟨event, d', c, e, hrun, hload, hentry, hchapter.2 (by decide)⟩

/-- **A blank character in front of a title is lost**: not every chapter is rebuilt. -/
theorem not_rebuilt_blank : ¬ ∀ (s : Shelf) (d : Disk) (us : List Update) (u : Update) event d',
    s.Bare d → (∀ v ∈ us, v.moment.Kept) → u.moment.Kept →
    u.run s (s.inTurn d us).2 = (.ok event, d') →
    ∃ c e, (on (s.loadCatalog u.chapter.bookUrl) d').1 = .ok c ∧
      (∀ f, f ∈ c ∧ f.index = u.chapter.index ↔ f = e) ∧
      e.toChapter u.chapter.bookUrl = u.chapter := by
  intro h
  obtain ⟨event, d', hrun⟩ := run_titled " x"
  obtain ⟨c, e, hload, hentry, hchapter⟩ := h {} {} [] (titled " x") event d' (bare_empty {})
    (by simp) (kept_titled " x") hrun
  obtain ⟨c', hload', -, hentry'⟩ := (bare_empty {}).inOrder.entry_of_ok (kept_titled " x") hrun
  obtain rfl := Except.ok.inj (hload.symm.trans hload')
  obtain rfl := (hentry' e).1 ((hentry e).2 rfl)
  rw [Update.toChapter_trimmed_iff] at hchapter
  revert hchapter
  decide

end Shelf

end ChapterAssembly
