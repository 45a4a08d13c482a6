/-
**Where the files of a book are.**

Every file of a book is to be below the base of the shelf, in a directory of a directory there: the
one named for the host, the other for the rest of the address.  The second name is made of letters,
digits and underscores, but the host is taken as it is.  It has no slash, but a URL may have a host
of one dot or two, which stands for no directory of that name; so the files of a book are where they
should be unless its host is one of these.

Main definitions:

* `Shelf.Confines` — the directory of a book, and every file of it, is two names below the base.

Main results:

* `Shelf.placeOf_join_join_join` — where a path with three names after the base leads;
* `Shelf.confines_of_ordinary` — a host with an ordinary name keeps its books below the base;
* `Shelf.confines_iff` — **when the files of a book are below the base**;
* `Shelf.escapes_dots` — a book with a host of two dots.
-/

import ChapterAssembly.Proofs.Shelf
import ChapterAssembly.Proofs.Url.Parts

set_option relaxedAutoImplicit false
set_option autoImplicit false

namespace ChapterAssembly

namespace Shelf

open Disk (Ordinary)

variable {s : Shelf} {address directory path host name : Text}

/-- **The book at an address is confined to the shelf**: its directory is the base with two
ordinary names, and whatever file of it a path leads to is in that directory, below the place of
the base. -/
structure Confines (s : Shelf) (address : Text) : Prop where
  directory : ∀ path, s.directory address = .ok path → ∃ host name,
    path = join (join s.base host) name ∧ Ordinary host ∧ Ordinary name
  content : ∀ (c : Chapter) path, c.bookUrl = address → s.contentPath c = .ok path →
    ∀ (d : Disk) place, d.resolve path = .ok place → ∃ host name,
      place = d.placeOf s.base ++ [host, name, contentName c.index]
  catalog : ∀ path, s.catalogPath address = .ok path →
    ∀ (d : Disk) place, d.resolve path = .ok place → ∃ host name,
      place = d.placeOf s.base ++ [host, name, catalogName]

/-- Where a path with three ordinary names after the base leads. -/
theorem placeOf_join_join_join (hh : Ordinary host) (hn : Ordinary name) {file : Text}
    (hf : Ordinary file) (d : Disk) :
    d.placeOf (join (join (join s.base host) name) file) =
      d.placeOf s.base ++ [host, name, file] := by
  simp [Disk.placeOf_join d hf, Disk.placeOf_join d hn, Disk.placeOf_join d hh]

/-- The names after the base are those that a path is made of. -/
theorem join_join_inj {host' name' : Text} (hh : host ≠ []) (hs : '/' ∉ host)
    (hn : Ordinary name) (hh' : Ordinary host') (hn' : Ordinary name')
    (h : join (join path host) name = join (join path host') name') :
    host = host' ∧ name = name' := by
  have h := congrArg Disk.parts h
  rw [Disk.parts_join hn.ne_nil hn.no_slash, Disk.parts_join hn'.ne_nil hn'.no_slash,
    Disk.parts_join hh hs, Disk.parts_join hh'.ne_nil hh'.no_slash, List.append_assoc,
    List.append_assoc] at h
  simpa using List.append_cancel_left h

/-- A book on a host with an ordinary name is confined to the shelf. -/
theorem confines_of_ordinary (h : s.directory address = .ok (join (join s.base host) name))
    (hh : Ordinary host) (hn : Ordinary name) : s.Confines address := by
  have hplace : ∀ file, Ordinary file → ∀ (d : Disk) place,
      d.resolve (join (join (join s.base host) name) file) = .ok place →
      ∃ host name, place = d.placeOf s.base ++ [host, name, file] := by
    intro file hf d place hp
    have hend := Disk.eq_placeOf_of_resolve hp
    rw [placeOf_join_join_join hh hn hf] at hend
    exact ⟨host, name, hend⟩
  constructor
  case directory =>
    intro path hp
    obtain rfl := Except.ok.inj (h.symm.trans hp)
    exact ⟨host, name, rfl, hh, hn⟩
  case content =>
    intro c path hc hp
    subst hc
    obtain rfl : join _ _ = path := by simpa [contentPath, h, Except.map] using hp
    exact hplace _ (ordinary_contentName c.index)
  case catalog =>
    intro path hp
    obtain rfl : join _ _ = path := by simpa [catalogPath, h, Except.map] using hp
    exact hplace _ ordinary_catalogName

/-- **When the book at an address is confined to the shelf**: its directory is the base with the
host, which is not empty and has no slash, and with a name of letters, digits and underscores; and
the book is confined unless the host is one dot or two. -/
theorem confines_iff (h : s.directory address = .ok directory) :
    ∃ host name, directory = join (join s.base host) name ∧ host ≠ [] ∧ '/' ∉ host ∧
      Ordinary name ∧ (∀ c ∈ name, c.isAlphanum = true ∨ c = '_') ∧
      (s.Confines address ↔ host ≠ ".".toList ∧ host ≠ "..".toList) := by
  obtain ⟨u, host, hu, hhost, rfl⟩ := directory_eq_ok_iff.1 h
  obtain ⟨hne, hslash⟩ := Url.host_of_parse hu hhost
  have hname := ordinary_nameOf u
  refine ⟨host, nameOf u, rfl, hne, hslash, hname, fun c => mem_nameOf, ?_⟩
  constructor
  · intro hc
    obtain ⟨host', name', heq, hh', hn'⟩ := hc.directory _ h
    obtain ⟨rfl, -⟩ := join_join_inj hne hslash hname hh' hn' heq
    exact ⟨hh'.ne_dot, hh'.ne_dots⟩
  · rintro ⟨hdot, hdots⟩
    exact confines_of_ordinary h ⟨hne, hslash, hdot, hdots⟩ hname

/-- A book on a host with a name is confined to the shelf. -/
theorem confines_iff_digit :
    ({} : Shelf).directory "x://h/1" = .ok ".folio/books/h/1" ∧ ({} : Shelf).Confines "x://h/1" := by
  have h : ({} : Shelf).directory "x://h/1" = .ok ".folio/books/h/1" := by decide
  obtain ⟨host, name, heq, hne, hslash, hname, -, hiff⟩ := confines_iff h
  have hordinary : Ordinary ['h'] ∧ Ordinary ['1'] := by
    constructor <;> constructor <;> decide
  obtain ⟨rfl, -⟩ := join_join_inj hne hslash hname hordinary.1 hordinary.2 heq.symm
  exact ⟨h, hiff.2 ⟨by decide, by decide⟩⟩

/-- **A book that is not confined to the shelf**: its host is two dots, and the text of a chapter
goes to a place next to the base. -/
theorem escapes_dots :
    let s : Shelf := { base := "/srv/books" }
    s.directory "x://../novel" = .ok "/srv/books/../novel" ∧
      ¬ s.Confines "x://../novel" ∧
      s.contentPath { bookUrl := "x://../novel" } = .ok "/srv/books/../novel/00000.txt" ∧
      ∃ d : Disk, d.placeOf s.base = ["srv".toList, "books".toList] ∧
        d.resolve "/srv/books/../novel/00000.txt" =
          .ok ["srv".toList, "novel".toList, "00000.txt".toList] := by
  intro s
  have hpath : s.contentPath { bookUrl := "x://../novel" } =
      .ok "/srv/books/../novel/00000.txt" := by decide
  let d : Disk := { entries := [(["srv".toList], .directory),
    (["srv".toList, "books".toList], .directory), (["srv".toList, "novel".toList], .directory)] }
  have hbase : d.placeOf s.base = ["srv".toList, "books".toList] := by decide
  have hplace : d.resolve "/srv/books/../novel/00000.txt" =
      .ok ["srv".toList, "novel".toList, "00000.txt".toList] := by decide
  refine ⟨by decide, fun hc => ?_, hpath, d, hbase, hplace⟩
  obtain ⟨host, name, h⟩ := hc.content _ _ rfl hpath d _ hplace
  rw [hbase] at h
  simp at h

end Shelf

end ChapterAssembly
