/-
**Where the files of books stand.**

What a shelf puts below its base are directories and files, and they are told apart by their names:
the name of a file has a dot and that of the directory of a book has none, and a file stands in the
directory of a book, so never right below the base, where a host may have any name.  Hence no file
is ever in the way of a directory, and no directory in the way of a file, and every file of a book
has a place of its own.

Main definitions:

* `Shelf.Spot` — the names that lead from the base of a shelf to a file of a book;
* `Shelf.Climbs` — an address whose host stands for the directory above the base;
* `Shelf.Vacant` — the base of a shelf is a directory with nothing in it;
* `Shelf.Tidy` — what is below the base of a shelf stands where the shelf puts it.

Main results:

* `Shelf.Spot.below_injective` — **two files of books are at different places**;
* `Shelf.contentName_injective` — two chapters of a book have different files;
* `Shelf.Tidy.read_path`, `Shelf.Tidy.isThere_path` — a file is found exactly if it is at its place;
* `Shelf.Tidy.node?_of_store` — **what storing a file puts where**;
* `Shelf.Tidy.of_store`, `Shelf.Tidy.node?_below_of_store` — a tidy shelf stays tidy, and no file of
  a book but the one that is stored changes.
-/

import ChapterAssembly.Proofs.Growth
import ChapterAssembly.Proofs.Text.Digits
import ChapterAssembly.Proofs.Url.Parts

set_option relaxedAutoImplicit false
set_option autoImplicit false

namespace ChapterAssembly

/-! ### Walks that go on or end -/

namespace Disk

variable {d d' : Disk} {p q : Place} {name : Text} {ns : List Text} {u : Unit}

theorem walk_of_none (h : d.node? p = none) : d.walk p (name :: ns) = .error .missing := by
  rw [walk, enter, h]
  rfl

theorem walk_of_fits (h : d.node? p = some .directory) (hf : Fits name) :
    d.walk p (name :: ns) = d.walk (onward p name) ns := by
  rw [walk, enter_eq_ok_iff (u := ()).2 h, step_eq_ok_iff.2 ⟨hf, rfl⟩]
  rfl

theorem walk_of_not_fits (h : d.node? p = some .directory) (hf : ¬ Fits name) :
    d.walk p (name :: ns) = .error .nameTooLong := by
  obtain ⟨hdot, hdots, hlong⟩ : name ≠ "." ∧ name ≠ ".." ∧ longestName < Utf8.size name := by
    simpa [Fits] using hf
  rw [walk, enter_eq_ok_iff (u := ()).2 h, step, if_neg hdot, if_neg hdots, if_pos hlong]
  rfl

/-! ### Directories that are made -/

/-- What is where after a directory was made, unless something was there. -/
theorem node?_made (d : Disk) (p q : Place) :
    (if (d.node? p).isSome then d else d.put p .directory).node? q =
      if q = p ∧ d.node? p = none then some .directory else d.node? q := by
  cases hp : d.node? p with
  | some n => simp
  | none =>
      have hne : p ≠ [] := ne_nil_of_node? (by simp) hp
      simp [node?_put d p q _ hne]

/-- Directories are made one after the other. -/
theorem makeFrom_cons_eq_ok_iff : d.makeFrom p (name :: ns) = (.ok u, d') ↔
    d.node? p = some .directory ∧ Fits name ∧
      (if (d.node? (onward p name)).isSome then d else d.put (onward p name) .directory).makeFrom
        (onward p name) ns = (.ok u, d') := by
  rw [makeFrom]
  cases he : d.enter p with
  | error e =>
      have : d.node? p ≠ some .directory := fun hn => by simp [enter, hn] at he
      simp [this, bind, Except.bind]
  | ok v =>
      cases hs : step p name with
      | error e =>
          have : ¬ Fits name := fun hf => by simp [step_eq_ok_iff.2 ⟨hf, rfl⟩] at hs
          simp [this, bind, Except.bind]
      | ok q =>
          obtain ⟨hf, rfl⟩ := step_eq_ok_iff.1 hs
          simp [enter_eq_ok_iff.1 he, hf, bind, Except.bind]

theorem makeFrom_nil_eq_ok_iff : d.makeFrom p [] = (.ok u, d') ↔
    (∀ bytes, d.node? p ≠ some (.file bytes)) ∧ d = d' := by
  rw [makeFrom]
  split
  · next bytes h => simp [h]
  · next h => simpa using fun _ bytes => h bytes

end Disk

namespace Shelf

open Disk (Ordinary Fits onward parts)

variable {s : Shelf} {address file : Text} {b q : Place} {d d' : Disk}

/-! ### Names of files -/

theorem dot_mem_catalogName : '.' ∈ catalogName := by decide

theorem dot_mem_contentName (index : UInt32) : '.' ∈ contentName index :=
  List.mem_append_right _ (by decide)

theorem dot_notMem_nameOf (u : Url) : '.' ∉ nameOf u := by
  intro h
  rcases mem_nameOf h with h | h
  · revert h
    decide
  · revert h
    decide

/-- **Two chapters of a book have different files**, however many digits their indices have. -/
theorem contentName_injective : Function.Injective contentName := by
  intro i j h
  have hdigits := List.append_cancel_right h
  have hread : ∀ k : UInt32,
      Text.decimal? (Text.padStart 5 '0' (Text.ofNat k.toNat)) = some k.toNat := by
    intro k
    rw [(Text.isNumber_ofNat k.toNat).decimal?_padStart, Text.decimal?_ofNat]
  have hnat : some i.toNat = some j.toNat := by
    rw [← hread i, ← hread j, hdigits]
  exact UInt32.toNat_inj.1 (Option.some.inj hnat)

/-- The text of a chapter and the catalog of its book have different files. -/
theorem contentName_ne_catalogName (index : UInt32) : contentName index ≠ catalogName := by
  intro h
  have hlast : (contentName index).getLast? = some 't' := by
    simp [contentName]
  rw [h] at hlast
  exact absurd hlast (by decide)

/-! ### Spots -/

/-- **The names that lead from the base of a shelf to a file of a book**: that of its host, that of
the directory of the book, and that of the file. -/
structure Spot where
  host : Text
  name : Text
  file : Text
  host_ne_nil : host ≠ []
  host_no_slash : '/' ∉ host
  host_ne_dots : host ≠ ".."
  ordinary_name : Ordinary name
  dot_name : '.' ∉ name
  ordinary_file : Ordinary file
  dot_file : '.' ∈ file

namespace Spot

variable (p p' : Spot)

/-- The path of the directory. -/
def directory (p : Spot) (s : Shelf) : Text := join (join s.base p.host) p.name

/-- The path of the file. -/
def path (p : Spot) (s : Shelf) : Text := join (p.directory s) p.file

/-- The directory of the host, as it is from the base; one dot stands for the base itself. -/
def top (p : Spot) : Place := if p.host = "." then [] else [p.host]

/-- The directory of the book, as it is from the base. -/
def home (p : Spot) : Place := p.top ++ [p.name]

/-- The place of the file, as it is from the base. -/
def below (p : Spot) : Place := p.home ++ [p.file]

/-- The disk can have the names. -/
def Fits (p : Spot) : Prop := ∀ x ∈ [p.host, p.name, p.file], Disk.Fits x

theorem onward_host (b : Place) : onward b p.host = b ++ p.top := by
  rw [onward, top, if_neg p.host_ne_dots]
  split <;> simp

theorem onward_name (b : Place) : onward (b ++ p.top) p.name = b ++ p.home := by
  rw [Disk.onward_of_ordinary p.ordinary_name, home, List.append_assoc]

theorem onward_file (b : Place) : onward (b ++ p.home) p.file = b ++ p.below := by
  rw [Disk.onward_of_ordinary p.ordinary_file, below, List.append_assoc]

/-- The directory of a host is right below the base. -/
theorem eq_top {q : Place} {x : Text} (h : q ++ [x] = p.top) : q = [] ∧ x = p.host := by
  unfold top at h
  split at h
  · simp at h
  · simpa [List.append_eq_singleton_iff] using h

/-- **Two files of books are at different places.** -/
theorem below_injective {p p' : Spot} (h : p.below = p'.below) :
    p.host = p'.host ∧ p.name = p'.name ∧ p.file = p'.file := by
  obtain ⟨hhome, hfile⟩ := List.append_inj' h rfl
  obtain ⟨htop, hname⟩ := List.append_inj' hhome rfl
  have hhost : p.host = p'.host := by
    unfold top at htop
    split at htop
    · next hdot =>
        split at htop
        · next hdot' => rw [hdot, hdot']
        · cases htop
    · split at htop
      · cases htop
      · simpa using htop
  exact ⟨hhost, by simpa using hname, by simpa using hfile⟩

theorem names_path (s : Shelf) :
    Disk.names (p.path s) = parts s.base ++ [p.host, p.name, p.file] := by
  rw [path, directory, Disk.names_join p.ordinary_file.ne_nil p.ordinary_file.no_slash,
    Disk.parts_join p.ordinary_name.ne_nil p.ordinary_name.no_slash,
    Disk.parts_join p.host_ne_nil p.host_no_slash]
  simp

theorem names_directory (s : Shelf) :
    Disk.names (p.directory s) = parts s.base ++ [p.host, p.name] := by
  rw [directory, Disk.names_join p.ordinary_name.ne_nil p.ordinary_name.no_slash,
    Disk.parts_join p.host_ne_nil p.host_no_slash]
  simp

/-- A path that leads somewhere has names that the disk can have. -/
theorem fits_of_resolve {p : Spot} (hp : d.resolve (p.path s) = .ok q) : p.Fits := by
  have hnames : Disk.names (p.path s) = (parts s.base ++ [p.host, p.name]) ++ [p.file] := by
    rw [p.names_path]
    simp
  rw [Disk.resolve_eq_walk (Disk.ne_nil_of_names hnames)] at hp
  have hfit := (Disk.eq_goal_of_walk hp).2
  rw [p.names_path] at hfit
  exact fun x hx => hfit x (List.mem_append_right _ hx)

theorem start_directory (d : Disk) (s : Shelf) : d.start (p.directory s) = d.start s.base := by
  rw [directory, d.start_join p.ordinary_name.no_slash, d.start_join p.host_no_slash]

theorem start_path (d : Disk) (s : Shelf) : d.start (p.path s) = d.start s.base := by
  rw [path, d.start_join p.ordinary_file.no_slash, p.start_directory]

end Spot

/-- The host of the address stands for the directory above the base. -/
def Climbs (address : Text) : Prop :=
  ∃ u, Url.parse address = .ok u ∧ u.hostText? = some ".."

/-- **Every file of a book has its spot**, unless the host of the book stands for the directory
above. -/
theorem exists_spot {directory : Text} (h : s.directory address = .ok directory)
    (hc : ¬ Climbs address) (hf : Ordinary file) (hdot : '.' ∈ file) :
    ∃ p : Spot, p.file = file ∧ directory = p.directory s := by
  obtain ⟨u, host, hu, hhost, rfl⟩ := directory_eq_ok_iff.1 h
  obtain ⟨hne, hslash⟩ := Url.host_of_parse hu hhost
  have hdots : host ≠ ".." := by
    rintro rfl
    exact hc ⟨u, hu, hhost⟩
  exact ⟨⟨host, nameOf u, file, hne, hslash, hdots, ordinary_nameOf u, dot_notMem_nameOf u, hf,
    hdot⟩, rfl, rfl⟩

/-! ### Tidy shelves -/

/-- The base of a shelf is a directory with nothing in it. -/
structure Vacant (s : Shelf) (b : Place) (d : Disk) : Prop where
  base : d.walk (d.start s.base) (parts s.base) = .ok b
  there : d.node? b = some .directory
  empty : ∀ q, q ≠ [] → d.node? (b ++ q) = none

/-- **What is below the base of a shelf stands where the shelf puts it.** -/
structure Tidy (s : Shelf) (b : Place) (d : Disk) : Prop where
  base : d.walk (d.start s.base) (parts s.base) = .ok b
  there : d.node? b = some .directory
  /-- Everything below the base is in a directory. -/
  rooted : ∀ q x, d.node? (b ++ q ++ [x]) ≠ none → d.node? (b ++ q) = some .directory
  /-- A file stands in some directory below the base, and its name has a dot. -/
  file : ∀ q bytes, d.node? (b ++ q) = some (.file bytes) →
    ∃ r name file, q = r ++ [name, file] ∧ '.' ∈ file
  /-- The name of a directory that is not right below the base has no dot. -/
  directory : ∀ q x, q ≠ [] → d.node? (b ++ q ++ [x]) = some .directory → '.' ∉ x
  fits : ∀ q x, d.node? (b ++ q ++ [x]) ≠ none → Disk.Fits x

theorem Vacant.tidy (h : s.Vacant b d) : s.Tidy b d where
  base := h.base
  there := h.there
  rooted q x hx := by
    rw [List.append_assoc] at hx
    exact absurd (h.empty _ (by simp)) hx
  file q bytes hq := by
    by_cases hnil : q = []
    · subst hnil
      rw [List.append_nil, h.there] at hq
      cases hq
    · rw [h.empty q hnil] at hq
      cases hq
  directory q x _ hx := by
    rw [List.append_assoc, h.empty _ (by simp)] at hx
    cases hx
  fits q x hx := by
    rw [List.append_assoc] at hx
    exact absurd (h.empty _ (by simp)) hx

namespace Tidy

variable {p p' : Spot} {bytes : Bytes} {u : Unit}

/-- There is no directory at the place of a file of a book. -/
theorem not_directory (h : s.Tidy b d) (p : Spot) :
    d.node? (b ++ p.below) ≠ some .directory := by
  intro hd
  rw [Spot.below, ← List.append_assoc] at hd
  exact h.directory _ _ (by simp [Spot.home]) hd p.dot_file

/-- There is no file where the directory of a host is. -/
theorem not_file_top (h : s.Tidy b d) (p : Spot) :
    d.node? (b ++ p.top) ≠ some (.file bytes) := by
  intro hf
  obtain ⟨r, name, file, hq, -⟩ := h.file _ _ hf
  have hlength := congrArg List.length hq
  unfold Spot.top at hlength
  split at hlength <;> simp at hlength

/-- There is no file where the directory of a book is. -/
theorem not_file_home (h : s.Tidy b d) (p : Spot) :
    d.node? (b ++ p.home) ≠ some (.file bytes) := by
  intro hf
  obtain ⟨r, name, file, hq, hdot⟩ := h.file _ _ hf
  have hname : p.name = file := by
    have hlast := congrArg List.getLast? hq
    simpa [Spot.home] using hlast
  exact p.dot_name (hname ▸ hdot)

/-- Where there is nothing, nothing is in it. -/
theorem none_of_none (h : s.Tidy b d) {q : Place} (hnone : d.node? (b ++ q) = none) (x : Text) :
    d.node? (b ++ (q ++ [x])) = none := by
  by_contra hne
  rw [← List.append_assoc] at hne
  have hdir := h.rooted q x hne
  rw [hnone] at hdir
  cases hdir

/-- Whatever is at the place of a file has names that the disk can have. -/
theorem fits_of_node? (h : s.Tidy b d) (hne : d.node? (b ++ p.below) ≠ none) : p.Fits := by
  rw [Spot.below, ← List.append_assoc] at hne
  have hhome := h.rooted _ _ hne
  have hfile := h.fits _ _ hne
  have hne' : d.node? (b ++ p.home) ≠ none := by simp [hhome]
  rw [Spot.home, ← List.append_assoc] at hne'
  have htop := h.rooted _ _ hne'
  have hname := h.fits _ _ hne'
  have hhost : Disk.Fits p.host := by
    unfold Spot.top at htop
    split at htop
    · next hdot => exact .inl hdot
    · next hdot => exact h.fits [] p.host (by simp [htop])
  intro x hx
  simp only [List.mem_cons, List.not_mem_nil, or_false] at hx
  rcases hx with rfl | rfl | rfl <;> assumption

/-! ### Files that are found -/

/-- The path of a file of a book leads over the base. -/
theorem resolve_path (h : s.Tidy b d) (p : Spot) :
    d.resolve (p.path s) = d.walk b [p.host, p.name, p.file] := by
  have hnames : Disk.names (p.path s) = (parts s.base ++ [p.host, p.name]) ++ [p.file] := by
    rw [p.names_path]
    simp
  rw [Disk.resolve_eq_walk (Disk.ne_nil_of_names hnames), p.start_path, p.names_path,
    Disk.walk_append, h.base]
  rfl

/-- **The path of a file of a book leads to its place**, or on the way there a directory is missing,
and then there is nothing at the place, or else a name is too long. -/
theorem resolve_path_cases (h : s.Tidy b d) (p : Spot) :
    (p.Fits ∧ d.resolve (p.path s) = .ok (b ++ p.below)) ∨
      (d.resolve (p.path s) = .error .missing ∧ d.node? (b ++ p.below) = none) ∨
      (¬ p.Fits ∧ d.resolve (p.path s) = .error .nameTooLong) := by
  rw [h.resolve_path p]
  by_cases hhost : Disk.Fits p.host
  · rw [Disk.walk_of_fits h.there hhost, p.onward_host]
    cases htop : d.node? (b ++ p.top) with
    | none =>
        have hhome : d.node? (b ++ p.home) = none := h.none_of_none htop p.name
        exact .inr (.inl ⟨Disk.walk_of_none htop, h.none_of_none hhome p.file⟩)
    | some n =>
        cases n with
        | file bytes => exact absurd htop (h.not_file_top p)
        | directory =>
            by_cases hname : Disk.Fits p.name
            · rw [Disk.walk_of_fits htop hname, p.onward_name]
              cases hhome : d.node? (b ++ p.home) with
              | none =>
                  exact .inr (.inl ⟨Disk.walk_of_none hhome, h.none_of_none hhome p.file⟩)
              | some n =>
                  cases n with
                  | file bytes => exact absurd hhome (h.not_file_home p)
                  | directory =>
                      by_cases hfile : Disk.Fits p.file
                      · rw [Disk.walk_of_fits hhome hfile, p.onward_file]
                        exact .inl ⟨by simp [Spot.Fits, hhost, hname, hfile], rfl⟩
                      · exact .inr (.inr ⟨fun hfit => hfile (hfit _ (by simp)),
                          Disk.walk_of_not_fits hhome hfile⟩)
            · exact .inr (.inr ⟨fun hfit => hname (hfit _ (by simp)),
                Disk.walk_of_not_fits htop hname⟩)
  · exact .inr (.inr ⟨fun hfit => hhost (hfit _ (by simp)),
      Disk.walk_of_not_fits h.there hhost⟩)

/-- **A file is read if it is at its place**, and is missing otherwise, if the names on the way can
be had. -/
theorem read_path (h : s.Tidy b d) (hfit : p.Fits) :
    d.read (p.path s) =
      match d.node? (b ++ p.below) with
      | some (.file bytes) => .ok bytes
      | _ => .error .missing := by
  unfold Disk.read
  rcases h.resolve_path_cases p with ⟨-, hp⟩ | ⟨hp, hnone⟩ | ⟨hlong, -⟩
  · rw [hp]
    cases hn : d.node? (b ++ p.below) with
    | none => simp [bind, Except.bind, hn]
    | some n =>
        cases n with
        | file bytes => simp [bind, Except.bind, hn]
        | directory => exact absurd hn (h.not_directory p)
  · rw [hp, hnone]
    rfl
  · exact absurd hfit hlong

/-- Whether there is a file at its place. -/
theorem isThere_path (h : s.Tidy b d) (hfit : p.Fits) :
    d.isThere (p.path s) = .ok (d.node? (b ++ p.below)).isSome := by
  unfold Disk.isThere
  rcases h.resolve_path_cases p with ⟨-, hp⟩ | ⟨hp, hnone⟩ | ⟨hlong, -⟩
  · rw [hp]
  · rw [hp, hnone]
    rfl
  · exact absurd hfit hlong

/-- **A file with a name that is too long is never found**: it is missing, or the disk refuses. -/
theorem read_path_of_not_fits (h : s.Tidy b d) (hfit : ¬ p.Fits) :
    (d.read (p.path s) = .error .missing ∧ d.isThere (p.path s) = .ok false) ∨
      (d.read (p.path s) = .error .nameTooLong ∧
        d.isThere (p.path s) = .error .nameTooLong) := by
  unfold Disk.read Disk.isThere
  rcases h.resolve_path_cases p with ⟨hshort, -⟩ | ⟨hp, -⟩ | ⟨-, hp⟩
  · exact absurd hshort hfit
  · rw [hp]
    exact .inl ⟨rfl, rfl⟩
  · rw [hp]
    exact .inr ⟨rfl, rfl⟩

/-! ### Files that are stored -/

theorem placeOf_path (h : s.Tidy b d) (p : Spot) : d.placeOf (p.path s) = b ++ p.below := by
  rw [Disk.placeOf, p.start_path, p.names_path, Disk.goal_append,
    ← (Disk.eq_goal_of_walk h.base).1]
  simp only [Disk.goal, List.foldl_cons, List.foldl_nil, p.onward_host, p.onward_name,
    p.onward_file]

/-- Making the directory of a book makes that of its host first. -/
theorem node?_of_makeDirectories (h : s.Tidy b d)
    (hmade : d.makeDirectories (p.directory s) = (.ok u, d')) (q : Place) :
    d'.node? q = if (q = b ++ p.top ∨ q = b ++ p.home) ∧ d.node? q = none then some .directory
      else d.node? q := by
  rw [Disk.makeDirectories, p.start_directory, p.names_directory,
    Disk.makeFrom_append h.base h.there] at hmade
  obtain ⟨-, -, hmade⟩ := Disk.makeFrom_cons_eq_ok_iff.1 hmade
  rw [p.onward_host] at hmade
  obtain ⟨-, -, hmade⟩ := Disk.makeFrom_cons_eq_ok_iff.1 hmade
  rw [p.onward_name] at hmade
  obtain ⟨-, rfl⟩ := Disk.makeFrom_nil_eq_ok_iff.1 hmade
  have hne : b ++ p.home ≠ b ++ p.top := by simp [Spot.home]
  rw [Disk.node?_made, Disk.node?_made, Disk.node?_made]
  by_cases htop : q = b ++ p.top
  · simp [htop, Ne.symm hne]
  · by_cases hhome : q = b ++ p.home
    · simp [hhome, hne]
    · simp [htop, hhome]

/-- **What storing a file puts where**: the file, and the directories on the way to it. -/
theorem node?_of_store (h : s.Tidy b d)
    (hstore : d.store (p.directory s) (p.path s) bytes = (.ok u, d')) (q : Place) :
    d'.node? q = if q = b ++ p.below then some (.file bytes)
      else if (q = b ++ p.top ∨ q = b ++ p.home) ∧ d.node? q = none then some .directory
      else d.node? q := by
  unfold Disk.store at hstore
  split at hstore
  · cases hstore
  · next v d₁ hmade =>
      split at hstore
      · next d₂ hwrite =>
          cases hstore
          obtain ⟨place, hp, hdir, rfl⟩ := Disk.write_eq_ok_iff.1 hwrite
          have hgrows := Disk.grows_makeDirectories [] d (p.directory s)
          rw [hmade] at hgrows
          obtain rfl : place = b ++ p.below := by
            rw [Disk.eq_placeOf_of_resolve hp, hgrows.placeOf, h.placeOf_path]
          rw [Disk.node?_put d₁ _ q _ (Disk.ne_nil_of_node? hdir rfl),
            h.node?_of_makeDirectories hmade]
      · cases hstore

/-- Whatever is below the base after a file was stored is the file, or a directory on the way to it,
or was there before. -/
theorem node?_of_store_cases (h : s.Tidy b d)
    (hstore : d.store (p.directory s) (p.path s) bytes = (.ok u, d')) {q : Place} {x : Text}
    {n : DiskNode} (hn : d'.node? (b ++ q ++ [x]) = some n) :
    (q = p.home ∧ x = p.file ∧ n = .file bytes) ∨ (q = p.top ∧ x = p.name ∧ n = .directory) ∨
      (q = [] ∧ x = p.host ∧ n = .directory) ∨ d.node? (b ++ q ++ [x]) = some n := by
  rw [h.node?_of_store hstore] at hn
  split at hn
  · next heq =>
      rw [List.append_assoc] at heq
      obtain ⟨hq, hx⟩ := List.append_inj' (List.append_cancel_left heq) rfl
      exact .inl ⟨hq, List.singleton_inj.1 hx, (Option.some.inj hn).symm⟩
  · split at hn
    · next hmade =>
        obtain rfl := Option.some.inj hn
        rw [List.append_assoc] at hmade
        rcases hmade.1 with heq | heq
        · obtain ⟨hq, hx⟩ := p.eq_top (List.append_cancel_left heq)
          exact .inr (.inr (.inl ⟨hq, hx, rfl⟩))
        · obtain ⟨hq, hx⟩ := List.append_inj' (List.append_cancel_left heq) rfl
          exact .inr (.inl ⟨hq, List.singleton_inj.1 hx, rfl⟩)
    · exact .inr (.inr (.inr hn))

/-- The directories on the way to a file that was stored are there. -/
theorem directory_of_store (h : s.Tidy b d)
    (hstore : d.store (p.directory s) (p.path s) bytes = (.ok u, d')) :
    d'.node? (b ++ p.top) = some .directory ∧ d'.node? (b ++ p.home) = some .directory := by
  have hway : ∀ q, (q = b ++ p.top ∨ q = b ++ p.home) → q ≠ b ++ p.below →
      (∀ bytes, d.node? q ≠ some (.file bytes)) → d'.node? q = some .directory := by
    intro q hq hne hfile
    rw [h.node?_of_store hstore, if_neg hne]
    cases hn : d.node? q with
    | none => simp [hq]
    | some n =>
        cases n with
        | file bytes => exact absurd hn (hfile bytes)
        | directory => simp
  exact ⟨hway _ (.inl rfl) (by simp [Spot.below, Spot.home]) fun _ => h.not_file_top p,
    hway _ (.inr rfl) (by simp [Spot.below]) fun _ => h.not_file_home p⟩

/-- **A shelf on which a file was stored is tidy.** -/
theorem of_store (h : s.Tidy b d)
    (hstore : d.store (p.directory s) (p.path s) bytes = (.ok u, d')) : s.Tidy b d' := by
  have hgrows := (Disk.file_of_store hstore).1
  have hfit := Spot.fits_of_resolve (Disk.file_of_store hstore).2.1
  have hthere := hgrows.directory b h.there
  obtain ⟨htop, hhome⟩ := h.directory_of_store hstore
  constructor
  case base =>
    rw [Disk.start, hgrows.working]
    exact hgrows.walk h.base
  case there => exact hthere
  case rooted =>
    intro q x hx
    obtain ⟨n, hn⟩ := Option.ne_none_iff_exists'.1 hx
    rcases h.node?_of_store_cases hstore hn with
      ⟨rfl, -, -⟩ | ⟨rfl, -, -⟩ | ⟨rfl, -, -⟩ | hold
    · exact hhome
    · exact htop
    · rwa [List.append_nil]
    · exact hgrows.directory _ (h.rooted q x (Option.ne_none_iff_exists'.2 ⟨n, hold⟩))
  case file =>
    intro q bytes' hq
    rcases List.eq_nil_or_concat q with rfl | ⟨r, x, rfl⟩
    · rw [List.append_nil, hthere] at hq
      cases hq
    · rw [List.concat_eq_append, ← List.append_assoc] at hq
      rw [List.concat_eq_append]
      rcases h.node?_of_store_cases hstore hq with
        ⟨rfl, rfl, -⟩ | ⟨-, -, hdir⟩ | ⟨-, -, hdir⟩ | hold
      · exact ⟨p.top, p.name, p.file, by simp [Spot.home], p.dot_file⟩
      · cases hdir
      · cases hdir
      · rw [List.append_assoc] at hold
        exact h.file _ bytes' hold
  case directory =>
    intro q x hnil hx
    rcases h.node?_of_store_cases hstore hx with
      ⟨-, -, hfile⟩ | ⟨-, rfl, -⟩ | ⟨hq, -, -⟩ | hold
    · cases hfile
    · exact p.dot_name
    · exact absurd hq hnil
    · exact h.directory q x hnil hold
  case fits =>
    intro q x hx
    obtain ⟨n, hn⟩ := Option.ne_none_iff_exists'.1 hx
    rcases h.node?_of_store_cases hstore hn with
      ⟨-, rfl, -⟩ | ⟨-, rfl, -⟩ | ⟨-, rfl, -⟩ | hold
    · exact hfit _ (by simp)
    · exact hfit _ (by simp)
    · exact hfit _ (by simp)
    · exact h.fits q x (Option.ne_none_iff_exists'.2 ⟨n, hold⟩)

/-- **No file of a book but the one that is stored changes.** -/
theorem node?_below_of_store (h : s.Tidy b d)
    (hstore : d.store (p.directory s) (p.path s) bytes = (.ok u, d')) (p' : Spot) :
    d'.node? (b ++ p'.below) =
      if p'.below = p.below then some (.file bytes) else d.node? (b ++ p'.below) := by
  have htop : p'.below ≠ p.top := by
    intro heq
    have hlength := congrArg List.length heq
    unfold Spot.below Spot.home Spot.top at hlength
    split at hlength <;> split at hlength <;> simp at hlength
  have hhome : p'.below ≠ p.home := by
    intro heq
    obtain ⟨-, hname⟩ := List.append_inj' heq rfl
    have hdot := p'.dot_file
    rw [List.singleton_inj.1 hname] at hdot
    exact p.dot_name hdot
  rw [h.node?_of_store hstore]
  simp [htop, hhome]

end Tidy

end Shelf

end ChapterAssembly
