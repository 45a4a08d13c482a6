/-
**What is where on a disk.**

A path leads to a place that its names alone decide, unless something on the way is missing or in
the way.  On a rooted disk, on which everything is in a directory, a file is found exactly if it is
at the place of its path; and making directories and writing a file touch no other file.

Main definitions:

* `Disk.Ordinary` — a name that stands for something in the directory where it is looked up;
* `Disk.goal` — where some names lead;
* `Disk.Rooted` — everything on a disk is in a directory;
* `Disk.Keeps` — two disks have the same files but for one place.

Main results:

* `Disk.eq_goal_of_walk` — a walk that ends well ends at its goal;
* `Disk.Rooted.read_eq_ok_iff` — **a file is read exactly if it is at the place of its path**;
* `Disk.Rooted.keeps_makeDirectories`, `Disk.Rooted.keeps_write` — **what is done to one file is
  done to no other**.
-/

import ChapterAssembly.Disk.Access
import ChapterAssembly.Proofs.Text.Pieces

set_option relaxedAutoImplicit false
set_option autoImplicit false

namespace ChapterAssembly

namespace Disk

variable {d d' d'' : Disk} {p q w : Place} {name path : Text} {ns : List Text} {bytes : Bytes}

/-! ### Names and goals -/

/-- A name that stands for something in the directory where it is looked up. -/
structure Ordinary (name : Text) : Prop where
  ne_nil : name ≠ []
  no_slash : '/' ∉ name
  ne_dot : name ≠ "."
  ne_dots : name ≠ ".."

/-- The place that a name in a directory stands for, however long it is. -/
def onward (p : Place) (name : Text) : Place :=
  if name = "." then p else if name = ".." then p.dropLast else p ++ [name]

/-- Where some names lead from a place if nothing is in the way. -/
def goal (p : Place) (ns : List Text) : Place := ns.foldl onward p

/-- A name that a disk can have. -/
def Fits (name : Text) : Prop := name = "." ∨ name = ".." ∨ Utf8.size name ≤ longestName

theorem onward_of_ordinary (h : Ordinary name) (p : Place) : onward p name = p ++ [name] := by
  rw [onward, if_neg h.ne_dot, if_neg h.ne_dots]

theorem goal_append (p : Place) (xs ys : List Text) : goal p (xs ++ ys) = goal (goal p xs) ys :=
  List.foldl_append

/-- Names that do not go up lead down, by those of them that do not stay. -/
theorem goal_of_notMem (h : "..".toList ∉ ns) (p : Place) :
    goal p ns = p ++ ns.filter fun x => x ≠ ".".toList := by
  induction ns generalizing p with
  | nil => simp [goal]
  | cons x ns ih =>
      obtain ⟨hx, hns⟩ : "..".toList ≠ x ∧ "..".toList ∉ ns := by
        simpa only [List.mem_cons, not_or] using h
      rw [goal, List.foldl_cons, ← goal, ih hns]
      by_cases hdot : x = ".".toList
      · simp [onward, hdot]
      · rw [onward, if_neg hdot, if_neg (Ne.symm hx), List.filter_cons_of_pos (by simpa using hdot),
          List.append_assoc, List.singleton_append]

theorem step_eq_ok_iff : step p name = .ok q ↔ Fits name ∧ q = onward p name := by
  unfold step onward Fits
  split
  · simp [*, eq_comm]
  · split
    · simp [*, eq_comm]
    · split
      · next hdot hdots hlong =>
          have : ¬ Utf8.size name ≤ longestName := by omega
          simp only [hdot, hdots, this, or_self, false_and, reduceCtorEq]
      · next hdot hdots hlong =>
          have : Utf8.size name ≤ longestName := by omega
          simp only [hdot, hdots, this, Except.ok.injEq, or_true, true_and, eq_comm]

/-! ### Walks -/

theorem enter_eq_ok_iff {u : Unit} : d.enter p = .ok u ↔ d.node? p = some .directory := by
  unfold enter
  split <;> simp_all

/-- A walk goes on from directory to directory. -/
theorem walk_cons_eq_ok_iff : d.walk p (name :: ns) = .ok q ↔
    d.node? p = some .directory ∧ Fits name ∧ d.walk (onward p name) ns = .ok q := by
  rw [walk]
  cases he : d.enter p with
  | error e =>
      have : d.node? p ≠ some .directory := fun hn => by simp [enter, hn] at he
      simp [this, bind, Except.bind]
  | ok u =>
      cases hs : step p name with
      | error e =>
          have : ¬ Fits name := fun hf => by simp [step_eq_ok_iff.2 ⟨hf, rfl⟩] at hs
          simp [this, bind, Except.bind]
      | ok q' =>
          obtain ⟨hf, rfl⟩ := step_eq_ok_iff.1 hs
          simp [enter_eq_ok_iff.1 he, hf, bind, Except.bind]

/-- **A walk that ends well ends at its goal**, over names that a disk can have. -/
theorem eq_goal_of_walk (h : d.walk p ns = .ok q) : q = goal p ns ∧ ∀ x ∈ ns, Fits x := by
  induction ns generalizing p with
  | nil => simpa [walk, goal, eq_comm] using h
  | cons x ns ih =>
      obtain ⟨-, hf, h⟩ := walk_cons_eq_ok_iff.1 h
      obtain ⟨hq, hns⟩ := ih h
      exact ⟨hq, by simpa [hf] using hns⟩

/-- A walk to an ordinary name comes through the directory where it is looked up. -/
theorem walk_concat_eq_ok_iff (ho : Ordinary name) : d.walk p (ns ++ [name]) = .ok q ↔
    ∃ q', d.walk p ns = .ok q' ∧ d.node? q' = some .directory ∧ Fits name ∧
      q = q' ++ [name] := by
  rw [walk_append]
  cases d.walk p ns with
  | error e => simp [bind, Except.bind]
  | ok q' =>
      have hwalk : d.walk q' [name] = .ok q ↔
          d.node? q' = some .directory ∧ Fits name ∧ q = q' ++ [name] := by
        rw [walk_cons_eq_ok_iff, onward_of_ordinary ho, walk, Except.ok.injEq, eq_comm (a := q)]
      simpa [bind, Except.bind] using hwalk

/-! ### Rooted disks -/

/-- **Everything on a disk is in a directory.** -/
def Rooted (d : Disk) : Prop :=
  ∀ p name, d.node? (p ++ [name]) ≠ none → d.node? p = some .directory

/-- Nothing is on an empty disk. -/
theorem rooted_empty (working : Place) : Rooted { working } := by
  intro p name h
  simp [node?] at h

namespace Rooted

/-- All that something is in are directories. -/
theorem directory_of_append (hr : d.Rooted) (hq : q ≠ []) (h : d.node? (p ++ q) ≠ none) :
    d.node? p = some .directory := by
  induction q using List.reverseRecOn with
  | nil => exact absurd rfl hq
  | append_singleton q x ih =>
      rw [← List.append_assoc] at h
      have hdir := hr _ _ h
      by_cases hnil : q = []
      · simpa [hnil] using hdir
      · exact ih hnil (by simp [hdir])

/-- The way to something is clear. -/
theorem walk_eq_ok (hr : d.Rooted) (hdots : "..".toList ∉ ns) (ho : Ordinary name)
    (hfit : ∀ x ∈ ns ++ [name], Fits x) (h : d.node? (goal p (ns ++ [name])) ≠ none) :
    d.walk p (ns ++ [name]) = .ok (goal p (ns ++ [name])) := by
  induction ns generalizing p with
  | nil =>
      rw [List.nil_append, goal, List.foldl_cons, List.foldl_nil, onward_of_ordinary ho] at h ⊢
      exact walk_cons_eq_ok_iff.2 ⟨hr _ _ h, hfit _ (by simp), by
        rw [walk, onward_of_ordinary ho]⟩
  | cons x ns ih =>
      have hns : "..".toList ∉ x :: ns ++ [name] := by
        rw [List.mem_append, List.mem_singleton, not_or]
        exact ⟨hdots, Ne.symm ho.ne_dots⟩
      have hdir : d.node? p = some .directory := by
        rw [goal_of_notMem hns] at h
        refine hr.directory_of_append ?_ h
        exact List.ne_nil_of_mem (a := name) (by simpa using ho.ne_dot)
      exact walk_cons_eq_ok_iff.2 ⟨hdir, hfit _ (by simp),
        ih (fun hmem => hdots (List.mem_cons_of_mem _ hmem))
          (fun y hy => hfit y (List.mem_cons_of_mem _ hy)) h⟩

/-- Something that is put into a directory, in place of no directory, leaves the disk rooted. -/
theorem put (hr : d.Rooted) (hp : d.node? p = some .directory)
    (hq : d.node? (p ++ [name]) ≠ some .directory) (n : DiskNode) :
    (d.put (p ++ [name]) n).Rooted := by
  intro r x h
  have hne : ∀ t : Place, d.node? t = some .directory → t ≠ p ++ [name] :=
    fun t ht heq => hq (heq ▸ ht)
  rw [node?_put _ _ _ _ (by simp)] at h ⊢
  by_cases hx : r ++ [x] = p ++ [name]
  · obtain ⟨rfl, -⟩ := List.append_inj' hx rfl
    rw [if_neg (hne r hp), hp]
  · rw [if_neg hx] at h
    have hdir := hr r x h
    rw [if_neg (hne r hdir), hdir]

end Rooted

/-! ### Paths -/

theorem ne_nil_of_names (h : names path = ns ++ [name]) : path ≠ [] := by
  rintro rfl
  simp [names, Text.splitOnChar] at h

/-- Where a path leads, for a path that ends with an ordinary name. -/
def placeOf (d : Disk) (path : Text) : Place := goal (d.start path) (names path)

theorem placeOf_congr (h : d'.working = d.working) (path : Text) :
    d'.placeOf path = d.placeOf path := by
  rw [placeOf, placeOf, start, start, h]

theorem resolve_eq_walk (h : path ≠ []) : d.resolve path = d.walk (d.start path) (names path) := by
  rw [resolve, if_neg h]

/-- A path that leads somewhere leads to its place. -/
theorem eq_placeOf_of_resolve (h : d.resolve path = .ok q) : q = d.placeOf path := by
  by_cases hp : path = []
  · simp [resolve, hp] at h
  · rw [resolve_eq_walk hp] at h
    exact (eq_goal_of_walk h).1

/-- **A file is read exactly if it is at the place of its path.** -/
theorem Rooted.read_eq_ok_iff (hr : d.Rooted) (hn : names path = ns ++ [name])
    (hdots : "..".toList ∉ ns) (ho : Ordinary name) : d.read path = .ok bytes ↔
      (∀ x ∈ names path, Fits x) ∧ d.node? (d.placeOf path) = some (.file bytes) := by
  have hresolve := d.resolve_eq_walk (ne_nil_of_names hn)
  constructor
  · intro h
    rw [read, hresolve] at h
    cases hw : d.walk (d.start path) (names path) with
    | error e => simp [hw, bind, Except.bind] at h
    | ok q =>
        obtain ⟨rfl, hfit⟩ := eq_goal_of_walk hw
        refine ⟨hfit, ?_⟩
        simp only [hw, bind, Except.bind] at h
        split at h <;> simp_all [placeOf]
  · rintro ⟨hfit, hnode⟩
    rw [placeOf] at hnode
    rw [hn] at hfit hnode
    have hw := hr.walk_eq_ok hdots ho hfit (by rw [hnode]; simp)
    rw [read, hresolve, hn, hw]
    simp [hnode, bind, Except.bind]

/-! ### Work -/

/-- **Two disks have the same files** but for what is at the place `w`, and both are rooted. -/
structure Keeps (w : Place) (d d' : Disk) : Prop where
  working : d'.working = d.working
  rooted : d'.Rooted
  file : ∀ q bytes, q ≠ w → (d'.node? q = some (.file bytes) ↔ d.node? q = some (.file bytes))

theorem Rooted.keeps (hr : d.Rooted) (w : Place) : Keeps w d d := ⟨rfl, hr, fun _ _ _ => Iff.rfl⟩

theorem Keeps.trans (h : Keeps w d d') (h' : Keeps w d' d'') : Keeps w d d'' where
  working := h'.working.trans h.working
  rooted := h'.rooted
  file q bytes hq := (h'.file q bytes hq).trans (h.file q bytes hq)

/-- Making a directory where nothing is, or something already. -/
theorem Rooted.keeps_directory (hr : d.Rooted) (hp : d.node? p = some .directory) (name : Text)
    (w : Place) : Keeps w d
      (if (d.node? (onward p name)).isSome then d else d.put (onward p name) .directory) := by
  split
  · exact hr.keeps w
  · next hnone =>
      have hnone : d.node? (onward p name) = none := by simpa using hnone
      -- only a name that leads down can lead to nothing
      have hdown : onward p name = p ++ [name] := by
        unfold onward at hnone ⊢
        split at hnone
        · simp [hp] at hnone
        · split at hnone
          · exfalso
            rcases List.eq_nil_or_concat p with rfl | ⟨r, x, rfl⟩
            · simp at hnone
            · rw [List.concat_eq_append] at hp hnone
              rw [List.dropLast_concat, hr r x (by simp [hp])] at hnone
              simp at hnone
          · next h h' => rw [if_neg h, if_neg h']
      rw [hdown] at hnone ⊢
      refine ⟨rfl, hr.put hp (by simp [hnone]) _, fun q bytes _ => ?_⟩
      rw [node?_put _ _ _ _ (by simp)]
      split
      · next hq => simp [hq, hnone]
      · exact Iff.rfl

theorem Rooted.keeps_makeFrom (hr : d.Rooted) (p : Place) (ns : List Text) (w : Place) :
    Keeps w d (d.makeFrom p ns).2 := by
  induction ns generalizing d p with
  | nil =>
      unfold makeFrom
      split <;> exact hr.keeps w
  | cons x ns ih =>
      rw [makeFrom]
      split
      · exact hr.keeps w
      · next q h =>
          obtain ⟨u, he, hs⟩ : ∃ u, d.enter p = .ok u ∧ step p x = .ok q := by
            cases he : d.enter p with
            | error e => simp [he, bind, Except.bind] at h
            | ok u => exact ⟨u, rfl, by simpa [he, bind, Except.bind] using h⟩
          obtain ⟨-, rfl⟩ := step_eq_ok_iff.1 hs
          have hkeeps := hr.keeps_directory (enter_eq_ok_iff.1 he) x w
          exact hkeeps.trans (ih hkeeps.rooted _)

/-- **Making directories touches no file.** -/
theorem Rooted.keeps_makeDirectories (hr : d.Rooted) (path : Text) (w : Place) :
    Keeps w d (d.makeDirectories path).2 := hr.keeps_makeFrom _ _ w

/-- **Writing a file touches no other.** -/
theorem Rooted.keeps_write (hr : d.Rooted) (hn : names path = ns ++ [name]) (ho : Ordinary name)
    (h : d.write path bytes = .ok d') : Keeps (d.placeOf path) d d' := by
  rw [write, resolve_eq_walk (ne_nil_of_names hn)] at h
  cases hw : d.walk (d.start path) (names path) with
  | error e => simp [hw, bind, Except.bind] at h
  | ok q =>
      have hq : q = d.placeOf path := (eq_goal_of_walk hw).1
      rw [hn] at hw
      obtain ⟨q', -, hdir, -, hq'⟩ := (walk_concat_eq_ok_iff ho).1 hw
      rw [← hn] at hw
      simp only [hw, bind, Except.bind] at h
      split at h
      · cases h
      · next hfile =>
          obtain rfl := Except.ok.inj h
          rw [← hq, hq']
          refine ⟨rfl, hr.put hdir (fun hd => hfile (hq' ▸ hd)) _, fun r bytes' hr' => ?_⟩
          rw [node?_put _ _ _ _ (by simp), if_neg hr']

end Disk

end ChapterAssembly
