/-
**Work with files, one step after the other.**

The work of a store says what it does with files and not how, so it can be carried out at once, or
be looked at as a program: a tree that asks for one thing of the disk at a time and goes on with the
answer, also with that of a disk that fails.  Carried out without pause the program does the work;
but others may come in between.

Main definitions:

* `Program` — what is asked of a disk, and how it goes on with each answer;
* `Program.advance` — one step of a program on a disk;
* `Program.run` — all steps;
* `Program.Performs` — a program does some work.

Main results:

* `Program.run_of_advance` — one step, and then the rest;
* `Shelf.performs_update` — **the update of a catalog as a program does what it does at once**.
-/

import ChapterAssembly.Proofs.Drive

set_option relaxedAutoImplicit false
set_option autoImplicit false

namespace ChapterAssembly

/-- **What is asked of a disk**, and how it goes on with each answer. -/
inductive Program (α : Type) where
  | done (a : α)
  | read (path : Text) (next : Except DiskError Bytes → Program α)
  | isThere (path : Text) (next : Except DiskError Bool → Program α)
  | makeDirectories (path : Text) (next : Except DiskError Unit → Program α)
  | write (path : Text) (bytes : Bytes) (next : Except DiskError Unit → Program α)

namespace Program

variable {α β : Type}

/-- A program, and then one that depends on what came of it. -/
def bind : Program α → (α → Program β) → Program β
  | done a, f => f a
  | read path next, f => read path fun r => bind (next r) f
  | isThere path next, f => isThere path fun r => bind (next r) f
  | makeDirectories path next, f => makeDirectories path fun r => bind (next r) f
  | write path bytes next, f => write path bytes fun r => bind (next r) f

instance : Monad Program where
  pure := done
  bind := bind

instance : Files Program where
  read path := read path done
  isThere path := isThere path done
  makeDirectories path := makeDirectories path done
  write path bytes := write path bytes done

/-- **One step of a program on a disk**, if it is not done; it may meet a fault. -/
def advance : Program α → Drive → Option (Program α × Drive)
  | done _, _ => none
  | read path next, v => some (Prod.map next id ((Files.read path : StateM Drive _) v))
  | isThere path next, v => some (Prod.map next id ((Files.isThere path : StateM Drive _) v))
  | makeDirectories path next, v =>
    some (Prod.map next id ((Files.makeDirectories path : StateM Drive _) v))
  | write path bytes next, v =>
    some (Prod.map next id ((Files.write path bytes : StateM Drive _) v))

/-- **All steps of a program**, without others in between. -/
def run : Program α → Drive → α × Drive
  | done a, v => (a, v)
  | read path next, v =>
    let (r, v) := (Files.read path : StateM Drive _) v
    run (next r) v
  | isThere path next, v =>
    let (r, v) := (Files.isThere path : StateM Drive _) v
    run (next r) v
  | makeDirectories path next, v =>
    let (r, v) := (Files.makeDirectories path : StateM Drive _) v
    run (next r) v
  | write path bytes next, v =>
    let (r, v) := (Files.write path bytes : StateM Drive _) v
    run (next r) v

/-- **One step, and then the rest.** -/
theorem run_of_advance {x y : Program α} {v v' : Drive} (h : x.advance v = some (y, v')) :
    x.run v = y.run v' := by
  cases x with
  | done a => cases h
  | _ =>
    obtain ⟨rfl, rfl⟩ := Prod.ext_iff.1 (Option.some_inj.1 h)
    rfl

theorem run_bind (x : Program α) (f : α → Program β) (v : Drive) :
    (x >>= f).run v = (f (x.run v).1).run (x.run v).2 := by
  induction x generalizing v with
  | done a => rfl
  | _ => next ih => exact ih _ _

/-! ### Programs of work that may fail -/

/-- **A program does some work**: carried out without pause, it gives the same result and leaves
the same disk, whatever faults it meets. -/
def Performs (x : Storing Program α) (work : Storing (StateM Drive) α) : Prop :=
  ∀ v, run (ExceptT.run x) v = Storing.onDrive work v

theorem performs_lift (r : Except StorageError α) :
    Performs (liftM r : Storing Program α) (liftM r : Storing (StateM Drive) α) := by
  intro v
  cases r <;> rfl

theorem Performs.bind {x : Storing Program α} {work : Storing (StateM Drive) α}
    {f : α → Storing Program β} {g : α → Storing (StateM Drive) β} (hx : Performs x work)
    (hf : ∀ a, Performs (f a) (g a)) : Performs (x >>= f) (work >>= g) := by
  intro v
  refine (run_bind (ExceptT.run x) _ v).trans ?_
  rw [hx v, Storing.onDrive_bind]
  obtain ⟨r, v'⟩ := Storing.onDrive work v
  cases r with
  | ok a => exact hf a v'
  | error e => rfl

theorem performs_makeDirectories (path : Text) :
    Performs (Storing.ofDisk (Files.makeDirectories path))
      (Storing.ofDisk (Files.makeDirectories path)) := fun _ => rfl

theorem performs_write (path : Text) (bytes : Bytes) :
    Performs (Storing.ofDisk (Files.write path bytes)) (Storing.ofDisk (Files.write path bytes)) :=
  fun _ => rfl

theorem performs_readText? (path : Text) :
    Performs (Storing.readText? path) (Storing.readText? path) := by
  intro v
  have hread : run (Files.readText path) v = (Files.readText path : StateM Drive _) v := rfl
  refine (run_bind (Files.readText path) _ v).trans ?_
  rw [hread, Storing.onDrive, Storing.run_readText?]
  obtain ⟨e | _, v⟩ := (Files.readText path : StateM Drive _) v
  · cases e <;> rfl
  · rfl

end Program

namespace Shelf

open Program

theorem performs_readCatalog (path : Text) : Performs (readCatalog path) (readCatalog path) := by
  refine (performs_readText? path).bind fun t => ?_
  cases t with
  | none => exact performs_lift (.ok _)
  | some t =>
      simp only
      split
      · exact performs_lift (.ok _)
      · exact performs_lift (.error _)

/-- **The update of a catalog as a program does what it does at once.** -/
theorem performs_update (s : Shelf) (now : Timestamp) (c : Chapter) :
    Performs (s.update now c) (s.update now c) := by
  refine (performs_lift _).bind fun path => (performs_readCatalog path).bind fun catalog => ?_
  refine (performs_lift _).bind fun directory => ?_
  refine (performs_makeDirectories directory).bind fun _ => ?_
  exact (performs_write path _).bind fun _ => performs_lift (.ok _)

end Shelf

end ChapterAssembly
