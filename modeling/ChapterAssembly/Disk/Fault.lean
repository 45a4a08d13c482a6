/-
**Disks that fail.**

A disk that is a value refuses only what contradicts what is on it.  A real one has more to say: it
is full, a directory may not be written in, a path as a whole is too long, a device does not answer.
Such a fault is met by one access, and it may come when part of the work is done: some of the
directories are there, or a file has been emptied and holds only the first of its new bytes.

Main definitions:

* `Disk.Fault` — why an access fails, and what was done by then;
* `Drive` — a disk with the faults that its next accesses meet, which is an instance of `Files`.
-/

import ChapterAssembly.Disk.Access

set_option relaxedAutoImplicit false
set_option autoImplicit false

namespace ChapterAssembly

/-- **Why an access fails** although nothing on the disk forbids it, and what was done by then. -/
structure Disk.Fault where
  reason : Text
  /-- Of the directories that were to be made, how many names were dealt with. -/
  names : Nat := 0
  /-- How many bytes are in the file that was to be written, in place of those it held; without a
  number it was not opened, and is as it was. -/
  bytes : Option Nat := none
deriving Repr, DecidableEq

/-- What the access says. -/
def Disk.Fault.error (f : Disk.Fault) : DiskError := .other f.reason

/-- **A disk with the faults that its next accesses meet**, one for each in their order; those behind
the last one meet none. -/
structure Drive where
  disk : Disk
  faults : List (Option Disk.Fault) := []
deriving Repr, DecidableEq

namespace Drive

/-- An access: what the disk answers, or a fault, with what that leaves of the disk. -/
def access {α : Type} (answer : StateM Disk (Except DiskError α))
    (leaves : Disk.Fault → Disk → Disk) : StateM Drive (Except DiskError α) := fun v =>
  match v.faults.headD none with
  | some f => (.error f.error, ⟨leaves f v.disk, v.faults.tail⟩)
  | none => ((answer v.disk).1, ⟨(answer v.disk).2, v.faults.tail⟩)

instance : Files (StateM Drive) where
  read path := access (Files.read path) fun _ d => d
  isThere path := access (Files.isThere path) fun _ d => d
  makeDirectories path := access (Files.makeDirectories path) fun f d =>
    (d.makeFrom (d.start path) ((Disk.names path).take f.names)).2
  write path bytes := access (Files.write path bytes) fun f d =>
    match f.bytes with
    | none => d
    | some n => ((Files.write path (bytes.take n) : StateM Disk _) d).2

end Drive

end ChapterAssembly
