/-
**Request quotas.**

A quota lets so many requests pass in a minute.  At first a full minute's permits are there; each
that is used comes back after its share of a minute, one after the other.

Main definitions:

* `ChapterAssembly.Quota` — a quota, and when all its permits will be back;
* `Quota.ready` — when the next permit is there;
* `Quota.use` — a quota after a permit was used.

Main results:

* `Quota.ready_of_fresh` — as many requests as the quota allows pass at once.
-/

import ChapterAssembly.Text.Basic

set_option relaxedAutoImplicit false
set_option autoImplicit false

namespace ChapterAssembly

/-- A quota.  Times are in billionths of a second. -/
structure Quota where
  perMinute : Nat
  /-- When all permits are back. -/
  full : Nat := 0
deriving Repr, DecidableEq

namespace Quota

/-- The time after which a permit comes back. -/
def interval (q : Quota) : Nat := 60000000000 / q.perMinute

/-- When the next permit is there, at the time `now`. -/
def ready (q : Quota) (now : Nat) : Nat := max now (q.full - (q.perMinute - 1) * q.interval)

/-- A quota after a permit was used at the time `now`. -/
def use (q : Quota) (now : Nat) : Quota := { q with full := max q.full now + q.interval }

/-- A quota after `k` permits were used at the time `now`. -/
def useMany (q : Quota) (now : Nat) : Nat → Quota
  | 0 => q
  | k + 1 => (useMany q now k).use now

theorem useMany_eq (q : Quota) (now k : Nat) (h : q.full ≤ now) :
    (q.useMany now (k + 1)).full = now + (k + 1) * q.interval ∧
      (q.useMany now (k + 1)).perMinute = q.perMinute := by
  induction k with
  | zero => simp [useMany, use, Nat.max_eq_right h]
  | succ k ih =>
    obtain ⟨h₁, h₂⟩ := ih
    rw [useMany]
    refine ⟨?_, h₂⟩
    have : (q.useMany now (k + 1)).interval = q.interval := by simp [interval, h₂]
    rw [use, h₁, this, Nat.max_eq_left (Nat.le_add_right _ _), Nat.add_assoc, ← Nat.succ_mul]

/-- **As many requests as the quota allows pass at once.** -/
theorem ready_of_fresh (q : Quota) (now k : Nat) (h : q.full ≤ now) (hk : k < q.perMinute) :
    (q.useMany now k).ready now = now := by
  cases k with
  | zero => simp [useMany, ready]; omega
  | succ k =>
    obtain ⟨h₁, h₂⟩ := useMany_eq q now k h
    have hi : (q.useMany now (k + 1)).interval = q.interval := by simp [interval, h₂]
    have hm : (k + 1) * q.interval ≤ (q.perMinute - 1) * q.interval :=
      Nat.mul_le_mul_right _ (by omega)
    rw [ready, h₁, h₂, hi]
    omega

end Quota

end ChapterAssembly
