/-
**Working with files.**

A program names files by paths: names with slashes between them, from the root or from the working
directory.  A path is walked from left to right; every name on the way must be that of a directory.

A disk that is a value refuses a name that is too long, and what contradicts the files and
directories on it.  It has no links, no owners and no end: what else a real disk refuses, and what a
file holds whose bytes were not all written, is in `ChapterAssembly.Disk.Fault`.

Main definitions:

* `ChapterAssembly.Files` — what a program does with files, on whatever disk;
* `Disk.walk`, `Disk.resolve` — where a path leads;
* `Disk.read`, `Disk.isThere`, `Disk.write`, `Disk.makeDirectories` — the same work on a disk that
  is a value, which makes that disk an instance of `Files`.

Main results:

* `Disk.walk_append` — a path is walked as one part of it after the other.
-/

import ChapterAssembly.Disk.Basic

set_option relaxedAutoImplicit false
set_option autoImplicit false

namespace ChapterAssembly

/-- What a program does with files. -/
class Files (m : Type → Type) where
  /-- The bytes of a file. -/
  read : Text → m (Except DiskError Bytes)
  /-- Whether something is at a path. -/
  isThere : Text → m (Except DiskError Bool)
  /-- Makes a directory, and those that it is in. -/
  makeDirectories : Text → m (Except DiskError Unit)
  /-- Makes a file of some bytes, in place of what it held. -/
  write : Text → Bytes → m (Except DiskError Unit)

/-- The text of a file. -/
def Files.readText {m : Type → Type} [Monad m] [Files m] (path : Text) :
    m (Except DiskError Text) := do
  return (← Files.read path) >>= fun bytes =>
    match Utf8.decode? bytes with
    | some t => .ok t
    | none => .error .notText

namespace Disk

/-! ### Paths -/

/-- The longest name, in bytes. -/
def longestName : Nat := 255

/-- The names of a path; a slash at its end stands for the directory itself. -/
def names (path : Text) : List Text :=
  (Text.splitOnChar '/' path).filter (!·.isEmpty) ++
    (if path.getLast? = some '/' then [['.']] else [])

/-- The place that a name in a directory stands for. -/
def step (p : Place) (name : Text) : Except DiskError Place :=
  if name = "." then .ok p
  else if name = ".." then .ok p.dropLast
  else if longestName < Utf8.size name then .error .nameTooLong
  else .ok (p ++ [name])

/-- The place is that of a directory. -/
def enter (d : Disk) (p : Place) : Except DiskError Unit :=
  match d.node? p with
  | some .directory => .ok ()
  | some (.file _) => .error .notDirectory
  | none => .error .missing

/-- Where some names lead from a place. -/
def walk (d : Disk) (p : Place) : List Text → Except DiskError Place
  | [] => .ok p
  | name :: rest => do
    d.enter p
    walk d (← step p name) rest

/-- The place that a path starts from. -/
def start (d : Disk) (path : Text) : Place := if path.head? = some '/' then [] else d.working

/-- The place of a path; nothing needs to be there.  Only single names are measured, not the path:
one that is too long as a whole is a matter of faults. -/
def resolve (d : Disk) (path : Text) : Except DiskError Place :=
  if path = [] then .error .missing else d.walk (d.start path) (names path)

/-- **A path is walked as one part of it after the other.** -/
theorem walk_append (d : Disk) (p : Place) (xs ys : List Text) :
    d.walk p (xs ++ ys) = d.walk p xs >>= fun q => d.walk q ys := by
  induction xs generalizing p with
  | nil => rfl
  | cons x xs ih =>
    simp only [List.cons_append, walk, bind_assoc, ih]

/-! ### Work -/

/-- The bytes of a file. -/
def read (d : Disk) (path : Text) : Except DiskError Bytes := do
  match d.node? (← d.resolve path) with
  | some (.file bytes) => .ok bytes
  | some .directory => .error .isDirectory
  | none => .error .missing

/-- Whether something is at a path. -/
def isThere (d : Disk) (path : Text) : Except DiskError Bool :=
  match d.resolve path with
  | .ok p => .ok (d.node? p).isSome
  | .error .missing => .ok false
  | .error e => .error e

/-- A disk with all the bytes in a file, or a refusal that leaves it as it was. -/
def write (d : Disk) (path : Text) (bytes : Bytes) : Except DiskError Disk := do
  let p ← d.resolve path
  match d.node? p with
  | some .directory => .error .isDirectory
  | _ => .ok (d.put p (.file bytes))

/-- A disk with directories where some names lead from a place; those made before a name that
cannot be had stay. -/
def makeFrom (d : Disk) (p : Place) : List Text → Except DiskError Unit × Disk
  | [] =>
    match d.node? p with
    | some (.file _) => (.error .occupied, d)
    | _ => (.ok (), d)
  | name :: rest =>
    match d.enter p >>= fun _ => step p name with
    | .error e => (.error e, d)
    | .ok q => makeFrom (if (d.node? q).isSome then d else d.put q .directory) q rest

/-- A disk with a directory at a path, and those that it is in. -/
def makeDirectories (d : Disk) (path : Text) : Except DiskError Unit × Disk :=
  d.makeFrom (d.start path) (names path)

instance : Files (StateM Disk) where
  read path := fun d => (d.read path, d)
  isThere path := fun d => (d.isThere path, d)
  makeDirectories path := fun d => d.makeDirectories path
  write path bytes := fun d =>
    match d.write path bytes with
    | .ok d' => (.ok (), d')
    | .error e => (.error e, d)

end Disk

end ChapterAssembly
