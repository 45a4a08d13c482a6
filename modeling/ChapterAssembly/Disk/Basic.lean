/-
**Disks.**

A disk holds files and directories, each at a place: the names from the root down to it.  The root
is a directory that is always there.

Main definitions:

* `ChapterAssembly.Disk` — a disk, seen through `Disk.node?`;
* `Disk.put` — a disk with something at a place;
* `ChapterAssembly.DiskError` — why a disk refuses, with its wording.

Main results:

* `Disk.node?_put` — what is where after something was put at a place.
-/

import ChapterAssembly.Text.Utf8

set_option relaxedAutoImplicit false
set_option autoImplicit false

namespace ChapterAssembly

/-- Why a disk refuses. -/
inductive DiskError where
  | missing
  /-- Something is there already. -/
  | occupied
  | notDirectory
  | isDirectory
  | nameTooLong
  /-- A file is no text. -/
  | notText
  /-- Something that only a real disk has. -/
  | other (reason : Text)
deriving Repr, DecidableEq

/-- The wording of an error. -/
def DiskError.message : DiskError → Text
  | .missing => "No such file or directory (os error 2)"
  | .occupied => "File exists (os error 17)"
  | .notDirectory => "Not a directory (os error 20)"
  | .isDirectory => "Is a directory (os error 21)"
  | .nameTooLong => "File name too long (os error 36)"
  | .notText => "stream did not contain valid UTF-8"
  | .other reason => reason

/-- A place: the names of the directories from the root, and at last a name in the last one. -/
abbrev Place := List Text

/-- What is at a place. -/
inductive DiskNode where
  | file (bytes : Bytes)
  | directory
deriving Repr, DecidableEq

/-- A disk, as the list of what is where; of two entries for a place the first counts. -/
structure Disk where
  entries : List (Place × DiskNode) := []
  /-- The directory that relative paths start from. -/
  working : Place := []
deriving Repr, DecidableEq

namespace Disk

/-- What is at a place. -/
def node? (d : Disk) (p : Place) : Option DiskNode :=
  if p = [] then some .directory else d.entries.lookup p

/-- A disk with something at a place, in place of what was there. -/
def put (d : Disk) (p : Place) (n : DiskNode) : Disk :=
  { d with entries := (p, n) :: d.entries.filter fun e => e.1 ≠ p }

/-- The files with their places. -/
def files (d : Disk) : List (Place × Bytes) :=
  d.entries.filterMap fun e =>
    match e.2 with
    | .file bytes => some (e.1, bytes)
    | .directory => none

@[simp] theorem node?_root (d : Disk) : d.node? [] = some .directory := rfl

theorem lookup_filter_ne {p q : Place} (h : q ≠ p) (es : List (Place × DiskNode)) :
    (es.filter fun e => e.1 ≠ p).lookup q = es.lookup q := by
  induction es with
  | nil => rfl
  | cons e es ih =>
    obtain ⟨r, n⟩ := e
    by_cases hr : r = p
    · subst hr
      have : (q == r) = false := by simpa using h
      simpa [List.lookup_cons, this] using ih
    · by_cases hq : q = r
      · simp [hr, hq]
      · have : (q == r) = false := by simp [hq]
        simp_all [List.lookup_cons]

/-- **What was put at a place is there, and all else is where it was.** -/
theorem node?_put (d : Disk) (p q : Place) (n : DiskNode) (h : p ≠ []) :
    (d.put p n).node? q = if q = p then some n else d.node? q := by
  by_cases hq : q = p
  · subst hq
    simp [node?, put, h]
  · have : (q == p) = false := by simp [hq]
    simp only [node?, put, List.lookup_cons, this, if_neg hq]
    rw [show (d.entries.filter fun e => decide (e.1 ≠ p)).lookup q = d.entries.lookup q from
      lookup_filter_ne hq d.entries]

end Disk

end ChapterAssembly
