/-
**Directories that can be made.**

Directories are made from one name to the next, and what was made before a name that cannot be had
stays.  They can be made just on a way that starts at a directory, on which no file stands and whose
names a disk can have; and then a file can be written in the last of them, unless a directory is in
its place.

Main definitions:

* `Disk.Free` — a way on which directories can be made;
* `Disk.Admits` — a directory can be made, and a file written in it.

Main results:

* `Disk.free_iff_makeFrom` — **directories can be made just on a free way**;
* `Disk.node?_of_makeFrom` — which directories are there then;
* `Disk.exists_store_iff` — **which files can be stored**;
* `Disk.Admits.isThere` — where a file can be stored and nothing is, nothing is found.
-/

import ChapterAssembly.Proofs.Spots

set_option relaxedAutoImplicit false
set_option autoImplicit false

namespace ChapterAssembly

/-! ### Free ways -/

namespace Disk

variable {d d' : Disk} {p q : Place} {name directory : Text} {ns : List Text} {u : Unit}
  {bytes : Bytes}

/-- **A way on which directories can be made**: it starts at a directory, a disk can have the names,
and no file stands on it. -/
structure Free (d : Disk) (p : Place) (ns : List Text) : Prop where
  start : d.node? p = some .directory
  fits : ∀ x ∈ ns, Fits x
  noFile : ∀ ms, ms <+: ns → ∀ bytes, d.node? (goal p ms) ≠ some (.file bytes)

/-- A disk with a directory at a place, unless something is there. -/
def made (d : Disk) (q : Place) : Disk := if (d.node? q).isSome then d else d.put q .directory

/-- Where a directory is made, no file comes or goes. -/
theorem node?_made_eq_file_iff :
    (d.made q).node? p = some (.file bytes) ↔ d.node? p = some (.file bytes) := by
  rw [made, node?_made]
  split
  · next h => simp [h.1, h.2]
  · exact Iff.rfl

/-- What is a directory after one was made, is it or was one before. -/
theorem node?_made_eq_directory_iff : (d.made q).node? p = some .directory ↔
    d.node? p = some .directory ∨ p = q ∧ d.node? q = none := by
  rw [made, node?_made]
  split
  · next h => simp [h]
  · next h => simp [h]

theorem node?_made_self (h : ∀ bytes, d.node? q ≠ some (.file bytes)) :
    (d.made q).node? q = some .directory := by
  rw [node?_made_eq_directory_iff]
  cases hq : d.node? q with
  | none => simp
  | some n =>
      cases n with
      | directory => simp
      | file bytes => exact absurd hq (h bytes)

/-- **A way is free from one directory to the next.** -/
theorem free_cons_iff : d.Free p (name :: ns) ↔
    d.node? p = some .directory ∧ Fits name ∧
      (d.made (onward p name)).Free (onward p name) ns := by
  constructor
  · intro h
    obtain ⟨hname, hns⟩ := List.forall_mem_cons.1 h.fits
    refine ⟨h.start, hname, ⟨node?_made_self ?_, hns, fun ms hms bytes => ?_⟩⟩
    · exact h.noFile [name] (by simp [List.cons_prefix_cons])
    · rw [ne_eq, node?_made_eq_file_iff]
      exact h.noFile (name :: ms) (List.cons_prefix_cons.2 ⟨rfl, hms⟩) bytes
  · rintro ⟨hstart, hname, hrest⟩
    refine ⟨hstart, List.forall_mem_cons.2 ⟨hname, hrest.fits⟩, fun ms hms bytes => ?_⟩
    cases ms with
    | nil =>
        rw [goal, List.foldl_nil, hstart]
        simp
    | cons x ms =>
        obtain ⟨rfl, hms'⟩ := List.cons_prefix_cons.1 hms
        rw [ne_eq, ← node?_made_eq_file_iff (q := onward p x)]
        exact hrest.noFile ms hms' bytes

/-- Directories that are made come one after the other. -/
theorem makeFrom_cons : d.makeFrom p (name :: ns) = (.ok u, d') ↔
    d.node? p = some .directory ∧ Fits name ∧
      (d.made (onward p name)).makeFrom (onward p name) ns = (.ok u, d') :=
  makeFrom_cons_eq_ok_iff

/-- No file stands where directories are made from. -/
theorem not_file_of_makeFrom (h : d.makeFrom p ns = (.ok u, d')) (bytes : Bytes) :
    d.node? p ≠ some (.file bytes) := by
  cases ns with
  | nil => exact (makeFrom_nil_eq_ok_iff.1 h).1 bytes
  | cons x ns => simp [(makeFrom_cons.1 h).1]

/-- What was made on the way is a directory. -/
theorem directory_of_makeFrom (h : (d.made q).makeFrom q ns = (.ok u, d')) :
    (d.made q).node? q = some .directory := by
  refine node?_made_self fun bytes => ?_
  rw [ne_eq, ← node?_made_eq_file_iff (q := q)]
  exact not_file_of_makeFrom h bytes

/-- **Directories can be made just on a free way.** -/
theorem free_iff_makeFrom : d.Free p ns ↔
    d.node? p = some .directory ∧ ∃ d', d.makeFrom p ns = (.ok (), d') := by
  induction ns generalizing d p with
  | nil =>
      constructor
      · exact fun h => ⟨h.start, d, makeFrom_nil_eq_ok_iff.2 ⟨by simp [h.start], rfl⟩⟩
      · rintro ⟨hstart, -⟩
        refine ⟨hstart, by simp, fun ms hms bytes => ?_⟩
        obtain rfl := List.prefix_nil.1 hms
        simp [goal, hstart]
  | cons x ns ih =>
      rw [free_cons_iff, ih]
      simp only [makeFrom_cons]
      constructor
      · rintro ⟨hstart, hx, -, d', h⟩
        exact ⟨hstart, d', hstart, hx, h⟩
      · rintro ⟨hstart, d', -, hx, h⟩
        exact ⟨hstart, hx, directory_of_makeFrom h, d', h⟩

/-- **Directories that were made are there**, on the way and at its end. -/
theorem walk_of_makeFrom (hp : d.node? p = some .directory) (h : d.makeFrom p ns = (.ok u, d')) :
    d'.walk p ns = .ok (goal p ns) ∧ d'.node? (goal p ns) = some .directory := by
  induction ns generalizing d p with
  | nil =>
      obtain ⟨-, rfl⟩ := makeFrom_nil_eq_ok_iff.1 h
      exact ⟨rfl, hp⟩
  | cons x ns ih =>
      obtain ⟨-, hx, hrest⟩ := makeFrom_cons.1 h
      obtain ⟨hwalk, hend⟩ := ih (directory_of_makeFrom hrest) hrest
      have hgrows : Grows [] d d' := by
        have hrests := grows_makeFrom [] (d.made (onward p x)) (onward p x) ns
        rw [hrest] at hrests
        exact (grows_directory [] (onward p x) d).trans hrests
      exact ⟨walk_cons_eq_ok_iff.2 ⟨hgrows.directory p hp, hx, hwalk⟩, hend⟩

/-- **Which directories are there** after some were made: those that were, and those on the way. -/
theorem node?_of_makeFrom (hp : d.node? p = some .directory)
    (h : d.makeFrom p ns = (.ok u, d')) : d'.node? q = some .directory ↔
      d.node? q = some .directory ∨ ∃ ms, ms <+: ns ∧ goal p ms = q := by
  induction ns generalizing d p with
  | nil =>
      obtain ⟨-, rfl⟩ := makeFrom_nil_eq_ok_iff.1 h
      simp only [List.prefix_nil, exists_eq_left, goal, List.foldl_nil, iff_self_or]
      rintro rfl
      exact hp
  | cons x ns ih =>
      obtain ⟨-, hx, hrest⟩ := makeFrom_cons.1 h
      rw [ih (directory_of_makeFrom hrest) hrest, node?_made_eq_directory_iff]
      constructor
      · rintro ((hq | ⟨rfl, -⟩) | ⟨ms, hms, hgoal⟩)
        · exact .inl hq
        · exact .inr ⟨[x], by simp [List.cons_prefix_cons], rfl⟩
        · exact .inr ⟨x :: ms, List.cons_prefix_cons.2 ⟨rfl, hms⟩, hgoal⟩
      · rintro (hq | ⟨ms, hms, hgoal⟩)
        · exact .inl (.inl hq)
        · cases ms with
          | nil =>
              obtain rfl : p = q := hgoal
              exact .inl (.inl hp)
          | cons y ms =>
              obtain ⟨rfl, hms'⟩ := List.cons_prefix_cons.1 hms
              exact .inr ⟨ms, hms', hgoal⟩

/-- **A free way is walked to its end**, or to a place where nothing is. -/
theorem Free.walk (h : d.Free p ns) :
    d.walk p ns = .ok (goal p ns) ∨ d.walk p ns = .error .missing := by
  induction ns generalizing p with
  | nil => exact .inl rfl
  | cons x ns ih =>
      obtain ⟨hx, hns⟩ := List.forall_mem_cons.1 h.fits
      rw [walk_of_fits h.start hx]
      cases hn : d.node? (onward p x) with
      | none =>
          cases ns with
          | nil => exact .inl rfl
          | cons y ns => exact .inr (walk_of_none hn)
      | some n =>
          cases n with
          | file bytes => exact absurd hn (h.noFile [x] (by simp [List.cons_prefix_cons]) bytes)
          | directory =>
              exact ih ⟨hn, hns, fun ms hms =>
                h.noFile (x :: ms) (List.cons_prefix_cons.2 ⟨rfl, hms⟩)⟩

/-! ### Files that can be stored -/

/-- **A directory can be made, and a file written in it**: the way to the directory is free, no
directory stands where the file will be, and none is made there. -/
structure Admits (d : Disk) (directory name : Text) : Prop where
  free : d.Free (d.start directory) (names directory)
  fits : Fits name
  vacant : d.node? (d.placeOf directory ++ [name]) ≠ some .directory
  apart : ∀ ms, ms <+: names directory →
    goal (d.start directory) ms ≠ d.placeOf directory ++ [name]

/-- A path without a slash at its end leads over some names. -/
structure Proper (directory : Text) : Prop where
  ne_nil : names directory ≠ []
  names_eq : names directory = parts directory

/-- Storing is making directories and then writing. -/
theorem store_eq_ok_iff {path : Text} : d.store directory path bytes = (.ok (), d') ↔
    ∃ d₁, d.makeDirectories directory = (.ok (), d₁) ∧ d₁.write path bytes = .ok d' := by
  unfold store
  cases hmade : d.makeDirectories directory with
  | mk result d₁ =>
      cases result with
      | error e => simp
      | ok v => cases hwritten : d₁.write path bytes <;> simp [hwritten]

/-- Which files can be written in a directory that was made. -/
theorem exists_write_iff {d₁ : Disk} (hdir : Proper directory) (ho : Ordinary name)
    (hstart : d.node? (d.start directory) = some .directory)
    (hmade : d.makeDirectories directory = (.ok (), d₁)) :
    (∃ d', d₁.write (Shelf.join directory name) bytes = .ok d') ↔
      Fits name ∧ d.node? (d.placeOf directory ++ [name]) ≠ some .directory ∧
        ∀ ms, ms <+: names directory →
          goal (d.start directory) ms ≠ d.placeOf directory ++ [name] := by
  have hnames := names_join ho.ne_nil ho.no_slash directory
  rw [← hdir.names_eq] at hnames
  obtain ⟨hwalk, hend⟩ := walk_of_makeFrom hstart hmade
  have hworking : d₁.start (Shelf.join directory name) = d.start directory := by
    have hgrows := grows_makeDirectories [] d directory
    rw [hmade] at hgrows
    rw [start_join _ ho.no_slash, start, hgrows.working, start]
  have hplace : ∀ p, d₁.resolve (Shelf.join directory name) = .ok p ↔
      Fits name ∧ p = d.placeOf directory ++ [name] := by
    intro p
    rw [resolve_eq_walk (ne_nil_of_names hnames), hnames, hworking, walk_concat_eq_ok_iff ho, hwalk]
    constructor
    · rintro ⟨q, hq, -, hf, rfl⟩
      obtain rfl := Except.ok.inj hq
      exact ⟨hf, rfl⟩
    · rintro ⟨hf, rfl⟩
      exact ⟨_, rfl, hend, hf, rfl⟩
  -- the file must not stand where a directory is, or was made on the way
  have hvacant : d₁.node? (d.placeOf directory ++ [name]) ≠ some .directory ↔
      d.node? (d.placeOf directory ++ [name]) ≠ some .directory ∧
        ∀ ms, ms <+: names directory →
          goal (d.start directory) ms ≠ d.placeOf directory ++ [name] := by
    rw [ne_eq, node?_of_makeFrom hstart hmade, not_or, not_exists]
    simp only [not_and, ne_eq]
  simp only [write_eq_ok_iff, hplace, ← hvacant]
  constructor
  · rintro ⟨_, _, ⟨hf, rfl⟩, hnot, -⟩
    exact ⟨hf, hnot⟩
  · rintro ⟨hf, hnot⟩
    exact ⟨_, _, ⟨hf, rfl⟩, hnot, rfl⟩

/-- **Which files can be stored.** -/
theorem exists_store_iff (hdir : Proper directory) (ho : Ordinary name) :
    (∃ d', d.store directory (Shelf.join directory name) bytes = (.ok (), d')) ↔
      d.Admits directory name := by
  simp only [store_eq_ok_iff]
  constructor
  · rintro ⟨d', d₁, hmade, hwritten⟩
    have hstart : d.node? (d.start directory) = some .directory := by
      obtain ⟨x, ns, hx⟩ := List.exists_cons_of_ne_nil hdir.ne_nil
      rw [makeDirectories, hx] at hmade
      exact (makeFrom_cons.1 hmade).1
    obtain ⟨hf, hvacant, hapart⟩ := (exists_write_iff hdir ho hstart hmade).1 ⟨d', hwritten⟩
    exact ⟨free_iff_makeFrom.2 ⟨hstart, d₁, hmade⟩, hf, hvacant, hapart⟩
  · intro h
    obtain ⟨hstart, d₁, hmade⟩ := free_iff_makeFrom.1 h.free
    obtain ⟨d', hwritten⟩ :=
      (exists_write_iff hdir ho hstart hmade).2 ⟨h.fits, h.vacant, h.apart⟩
    exact ⟨d', d₁, hmade, hwritten⟩

/-- Where a file can be stored and nothing is, nothing is found. -/
theorem Admits.isThere (h : d.Admits directory name) (hdir : Proper directory)
    (ho : Ordinary name) (hnone : d.node? (d.placeOf directory ++ [name]) = none) :
    d.isThere (Shelf.join directory name) = .ok false := by
  have hnames := names_join ho.ne_nil ho.no_slash directory
  rw [← hdir.names_eq] at hnames
  have hplace : goal (d.start directory) (names directory ++ [name]) =
      d.placeOf directory ++ [name] := by
    rw [goal_append, ← placeOf, goal, List.foldl_cons, List.foldl_nil, onward_of_ordinary ho]
  have hfree : d.Free (d.start directory) (names directory ++ [name]) := by
    refine ⟨h.free.start, ?_, fun ms hms bytes => ?_⟩
    · exact List.forall_mem_append.2 ⟨h.free.fits, List.forall_mem_singleton.2 h.fits⟩
    · rcases List.prefix_concat_iff.1 hms with rfl | hms
      · rw [hplace, hnone]
        simp
      · exact h.free.noFile ms hms bytes
  have hresolve : d.resolve (Shelf.join directory name) =
      d.walk (d.start directory) (names directory ++ [name]) := by
    rw [resolve_eq_walk (ne_nil_of_names hnames), hnames, start_join _ ho.no_slash]
  rw [Disk.isThere, hresolve]
  rcases hfree.walk with hwalk | hwalk
  · rw [hwalk, hplace]
    simp [hnone]
  · rw [hwalk]

end Disk

end ChapterAssembly
