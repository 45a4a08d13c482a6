/-
**The pool of slots for requests.**

Pages that are fetched side by side each need a slot of a pool, which all chapters share.  A slot
that becomes free goes to whoever has waited longest.

Main definitions:

* `Content.Pool` — who holds a slot, and who waits for one;
* `Pool.enter`, `Pool.leave` — someone asks for a slot, and someone has no more need of it.

Main results:

* `Pool.available_add_holders` — free slots and holders together are the size of the pool.
-/

set_option relaxedAutoImplicit false
set_option autoImplicit false

namespace ChapterAssembly

namespace Content

/-- A pool of slots: who holds one, and who waits for one, the longest first.  Nobody waits while a
slot is free. -/
structure Pool (α : Type) where
  size : Nat
  holders : List α := []
  waiting : List α := []
  /-- All who ever got a slot, the latest first. -/
  granted : List α := []
  size_pos : 0 < size
  holders_le : holders.length ≤ size := by simp
  full_of_waiting : waiting ≠ [] → holders.length = size := by simp

namespace Pool

variable {α : Type}

/-- A pool whose slots are free; it has one at least.  That a semaphore has room for so many permits
and no more is left out: `n` may be any number. -/
def ofSize (n : Nat) : Pool α := { size := Nat.max n 1, size_pos := Nat.le_max_right n 1 }

/-- The number of free slots. -/
def available (p : Pool α) : Nat := p.size - p.holders.length

/-- **Free slots and holders together are the size of the pool.** -/
theorem available_add_holders (p : Pool α) : p.available + p.holders.length = p.size :=
  Nat.sub_add_cancel p.holders_le

/-- Someone asks for a slot: gets a free one, or waits behind all others. -/
def enter (p : Pool α) (a : α) : Pool α :=
  if h : p.holders.length < p.size then
    { p with
      holders := p.holders ++ [a]
      granted := a :: p.granted
      holders_le := by rw [List.length_append]; exact h
      full_of_waiting := fun hw => absurd (p.full_of_waiting hw) (by omega) }
  else
    { p with
      waiting := p.waiting ++ [a]
      full_of_waiting := fun _ => by have := p.holders_le; omega }

variable [DecidableEq α]

/-- Someone holds a slot. -/
def holds (p : Pool α) (a : α) : Bool := p.holders.contains a

/-- Someone gives a slot back, which goes to whoever has waited longest. -/
def release (p : Pool α) (a : α) : Pool α :=
  if h : a ∈ p.holders then
    have hl : (p.holders.erase a).length + 1 = p.holders.length := by
      have := List.length_erase_of_mem h
      have := List.length_pos_of_mem h
      omega
    match hw : p.waiting with
    | [] =>
      { p with
        holders := p.holders.erase a
        waiting := []
        holders_le := by have := p.holders_le; omega
        full_of_waiting := by simp }
    | w :: ws =>
      { p with
        holders := p.holders.erase a ++ [w]
        waiting := ws
        granted := w :: p.granted
        holders_le := by have := p.holders_le; simp; omega
        full_of_waiting := fun _ => by
          have := p.full_of_waiting (by rw [hw]; simp)
          simp; omega }
  else p

/-- Someone who waits gives up. -/
def giveUp (p : Pool α) (a : α) : Pool α :=
  { p with
    waiting := p.waiting.erase a
    full_of_waiting := fun h => p.full_of_waiting fun hw => h (by simp [hw]) }

/-- Someone has no more need of a slot, whether there is one already or not. -/
def leave (p : Pool α) (a : α) : Pool α := if p.holds a then p.release a else p.giveUp a

end Pool

end Content

end ChapterAssembly
