/-
**Books that share a directory.**

The name of the directory of a book tells letters and digits apart and nothing else: of what an
address says besides its host, each other character becomes an underscore, and none is kept at the
two ends.  So two books on one host share a directory, and with it their texts and their catalog,
if their addresses differ in nothing else; and if they do not, neither touches what is stored of the
other.

Main definitions:

* `Shelf.Alike` — two characters that the names of directories do not tell apart;
* `Shelf.Spares` — what is loaded of a book is the same on two disks.

Main results:

* `Shelf.directory_eq_iff` — when two books on one host share a directory;
* `Shelf.Spares.of_keeps` — a disk on which a file in another directory is touched;
* `Shelf.directory_eq_iff_and_spares` — **two books share a directory, or storing something of one
  spares the other**;
* `Shelf.directory_shared` — two books with one directory, of which one loses its text.
-/

import Mathlib.Data.List.Forall2
import ChapterAssembly.Proofs.Storing
import ChapterAssembly.Proofs.Url.Parts

set_option relaxedAutoImplicit false
set_option autoImplicit false

namespace ChapterAssembly

namespace Shelf

open Disk (Ordinary Keeps names)
open Storing (on)

variable {s : Shelf} {a b host directory path : Text} {u v : Url}

/-! ### Names that are the same -/

/-- Two characters that the names of directories do not tell apart. -/
def Alike (c d : Char) : Prop := c = d ∨ (c.isAlphanum = false ∧ d.isAlphanum = false)

theorem alike_iff {c d : Char} : Alike c d ↔
    (if c.isAlphanum then c else '_') = (if d.isAlphanum then d else '_') := by
  have hunder : ∀ e : Char, e.isAlphanum = true → '_' ≠ e := by
    rintro e he rfl
    revert he
    decide
  unfold Alike
  cases hc : c.isAlphanum <;> cases hd : d.isAlphanum
  · simp
  · simpa [hunder d hd] using fun h : c = d => by simp [h, hd] at hc
  · simpa [(hunder c hc).symm] using fun h : c = d => by simp [h, hd] at hc
  · simp

theorem sanitize_eq_iff {x y : Text} : sanitize x = sanitize y ↔ List.Forall₂ Alike x y := by
  have heq : sanitize x = sanitize y ↔ List.Forall₂ (· = ·) (sanitize x) (sanitize y) := by
    rw [List.forall₂_eq_eq_eq]
  have halike : Alike = fun c d =>
      (if c.isAlphanum then c else '_') = (if d.isAlphanum then d else '_') :=
    funext fun c => funext fun d => propext alike_iff
  rw [heq, sanitize, sanitize, List.forall₂_map_left_iff, List.forall₂_map_right_iff, halike]

theorem join_right_inj {x y : Text} : join path x = join path y ↔ x = y := by
  unfold join
  split <;> simp

/-- **When two books on one host share a directory**: their addresses say alike things besides the
host. -/
theorem directory_eq_iff (ha : Url.parse a = .ok u) (hb : Url.parse b = .ok v)
    (hu : u.hostText? = some host) (hv : v.hostText? = some host) :
    s.directory a = s.directory b ↔ List.Forall₂ Alike (stem u) (stem v) := by
  simp only [directory, ha, hb, hu, hv, Except.ok.injEq, join_right_inj,
    nameOf_eq_sanitize_stem, sanitize_eq_iff]

/-! ### Files that stay -/

/-- **What is loaded of the book at `b` is the same** on the disks `d` and `d'`. -/
structure Spares (s : Shelf) (b : Text) (d d' : Disk) : Prop where
  rooted : d'.Rooted
  text : ∀ c : Chapter, c.bookUrl = b → ∀ t,
    (on (s.load c) d').1 = .ok t ↔ (on (s.load c) d).1 = .ok t
  catalog : ∀ catalog,
    (on (s.loadCatalog b) d').1 = .ok catalog ↔ (on (s.loadCatalog b) d).1 = .ok catalog

variable {d d' : Disk} {name other : Text}

/-- A disk on which nothing was touched but a file in another directory. -/
theorem Spares.of_keeps (hr : d.Rooted) (hb : s.directory b = .ok directory)
    (hdots : "..".toList ∉ Disk.parts directory)
    (hk : Keeps (d.placeOf other ++ [name]) d d') (hne : d.placeOf directory ≠ d.placeOf other) :
    s.Spares b d d' where
  rooted := hk.rooted
  text c hc t := by
    subst hc
    have hplace : d.placeOf directory ++ [contentName c.index] ≠ d.placeOf other ++ [name] :=
      fun h => hne (List.append_inj' h rfl).1
    simp only [load_eq_ok_iff, contentPath, hb, Except.map, Except.ok.injEq, exists_eq_left',
      hk.readText_iff hr (ordinary_contentName c.index) hdots hplace]
  catalog catalog := by
    have hplace : d.placeOf directory ++ [catalogName] ≠ d.placeOf other ++ [name] :=
      fun h => hne (List.append_inj' h rfl).1
    simp only [loadCatalog_eq_ok_iff, catalogPath, hb, Except.map, Except.ok.injEq,
      exists_and_left, exists_eq_left',
      hk.readText_iff hr ordinary_catalogName hdots hplace]

/-- The directories of two books on one host are at different places if they have different
names. -/
theorem placeOf_ne_placeOf (d : Disk) (h : nameOf u ≠ nameOf v) :
    d.placeOf (join (join s.base host) (nameOf v)) ≠
      d.placeOf (join (join s.base host) (nameOf u)) := by
  rw [Disk.placeOf_join d (ordinary_nameOf v), Disk.placeOf_join d (ordinary_nameOf u)]
  exact fun heq => h (List.singleton_inj.1 (List.append_cancel_left heq)).symm

/-- The path of a directory does not go up unless the base of the shelf or the host does. -/
theorem notMem_parts_directory (hbase : "..".toList ∉ names s.base) (hne : host ≠ [])
    (hslash : '/' ∉ host) (hhost : host ≠ "..".toList) :
    "..".toList ∉ Disk.parts (join (join s.base host) (nameOf v)) := by
  have ho := ordinary_nameOf v
  rw [Disk.parts_join ho.ne_nil ho.no_slash, Disk.parts_join hne hslash]
  simp only [List.mem_append, List.mem_singleton, not_or]
  exact ⟨⟨fun h => hbase ((Disk.mem_parts_iff (by decide)).1 h), hhost.symm⟩, ho.ne_dots.symm⟩

/-- **Two books on one host share a directory just if their addresses say alike things besides the
host; and if not, storing something of one of them spares the other**, unless the base of the shelf
or the host goes up. -/
theorem directory_eq_iff_and_spares (ha : Url.parse a = .ok u) (hb : Url.parse b = .ok v)
    (hu : u.hostText? = some host) (hv : v.hostText? = some host) :
    (s.directory a = s.directory b ↔ List.Forall₂ Alike (stem u) (stem v)) ∧
    (¬ List.Forall₂ Alike (stem u) (stem v) → "..".toList ∉ names s.base →
      host ≠ "..".toList → ∀ (d : Disk) (c : Chapter), d.Rooted → c.bookUrl = a →
        (∀ book content, s.Spares b d (on (s.save book c content) d).2) ∧
        ∀ now, s.Spares b d (on (s.update now c) d).2) := by
  refine ⟨directory_eq_iff ha hb hu hv, ?_⟩
  rintro halike hbase hhost d c hr rfl
  have hname : nameOf u ≠ nameOf v := by
    rwa [nameOf_eq_sanitize_stem, nameOf_eq_sanitize_stem, Ne, sanitize_eq_iff]
  obtain ⟨hne, hslash⟩ := Url.host_of_parse ha hu
  have hdir := directory_eq_ok_iff (s := s).2 ⟨u, host, ha, hu, rfl⟩
  have hdir' := directory_eq_ok_iff (s := s).2 ⟨v, host, hb, hv, rfl⟩
  have hdots := notMem_parts_directory (s := s) (v := v) hbase hne hslash hhost
  have hplace : d.placeOf (join (join s.base host) (nameOf v)) ≠
      d.placeOf (join (join s.base host) (nameOf u)) := placeOf_ne_placeOf d hname
  exact ⟨fun book content => .of_keeps hr hdir' hdots (keeps_save hr hdir book content) hplace,
    fun now => .of_keeps hr hdir' hdots (keeps_update hr hdir now) hplace⟩

/-- The page of a book on a host without a domain. -/
def bookAt (segments : List Text) : Url :=
  { scheme := ['x'], authority := some { host := .domain ['h'] }, path := .segments segments }

theorem parse_digit : Url.parse "x://h/1" = .ok (bookAt [['1']]) ∧
    Url.parse "x://h/2" = .ok (bookAt [['2']]) := by decide

/-- Two books whose addresses differ in a digit do not share a directory. -/
theorem directory_eq_iff_and_spares_digit :
    ¬ List.Forall₂ Alike (stem (bookAt [['1']])) (stem (bookAt [['2']])) ∧
      ({} : Shelf).directory "x://h/1" ≠ ({} : Shelf).directory "x://h/2" ∧
      ({} : Disk).Rooted ∧ ∀ content, ({} : Shelf).Spares "x://h/2" {}
        (on (({} : Shelf).save {} { bookUrl := "x://h/1" } content) {}).2 := by
  have halike : ¬ List.Forall₂ Alike (stem (bookAt [['1']])) (stem (bookAt [['2']])) := by
    rw [← sanitize_eq_iff]
    decide
  have hhost : (bookAt [['1']]).hostText? = some ['h'] ∧
      (bookAt [['2']]).hostText? = some ['h'] := ⟨rfl, rfl⟩
  have h := directory_eq_iff_and_spares (s := {}) parse_digit.1 parse_digit.2 hhost.1 hhost.2
  exact ⟨halike, mt h.1.1 halike, Disk.rooted_empty [], fun content =>
    (h.2 halike (by decide) (by decide) {} { bookUrl := "x://h/1" } (Disk.rooted_empty [])
      rfl).1 {} content⟩

/-- **Two books on one host that share a directory**: a hyphen in the address of the one stands
where there is a slash in that of the other.  What is stored of the second is loaded for the
first. -/
theorem directory_shared :
    ∃ u v, Url.parse "x://h/4-2" = .ok u ∧ Url.parse "x://h/4/2" = .ok v ∧
      u.scheme = v.scheme ∧ u.authority = v.authority ∧ u.path ≠ v.path ∧
      (∀ s : Shelf, s.directory "x://h/4-2" = s.directory "x://h/4/2") ∧
      let first : Chapter := { bookUrl := "x://h/4-2" }
      let second : Chapter := { bookUrl := "x://h/4/2" }
      let stored := (on (({} : Shelf).save {} first ['1']) {}).2
      (on (({} : Shelf).load first) stored).1 = .ok ['1'] ∧
        (on (({} : Shelf).load first) (on (({} : Shelf).save {} second ['2']) stored).2).1 =
          .ok ['2'] := by
  have hu : Url.parse "x://h/4-2" = .ok (bookAt [['4', '-', '2']]) := by decide
  have hv : Url.parse "x://h/4/2" = .ok (bookAt [['4'], ['2']]) := by decide
  have hhost : (bookAt [['4', '-', '2']]).hostText? = some ['h'] := rfl
  refine ⟨_, _, hu, hv, rfl, rfl, by decide, fun s => ?_, ?_, ?_⟩
  · rw [directory_eq_iff hu hv hhost rfl, ← sanitize_eq_iff]
    decide
  · exact (load_eq_ok_iff _ _ _ _).2 ⟨".folio/books/h/4_2/00000.txt", by decide,
      Disk.readText_eq_ok_iff.2 ⟨[49], by decide, by decide +kernel⟩⟩
  · exact (load_eq_ok_iff _ _ _ _).2 ⟨".folio/books/h/4_2/00000.txt", by decide,
      Disk.readText_eq_ok_iff.2 ⟨[50], by decide, by decide +kernel⟩⟩

end Shelf

end ChapterAssembly
