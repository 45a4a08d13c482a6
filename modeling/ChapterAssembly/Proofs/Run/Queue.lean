/-
**The pool of slots as a queue.**

Those who hold a slot and those who wait for one stand in one line, in the order in which they came:
whoever asks stands behind all others, and whoever leaves makes room for those behind.

Main definitions:

* `Pool.places` — all who have a place, those who hold a slot first;
* `Pool.served` — all who ever got a slot, and those who wait;
* `askers` — the tasks that have asked for a slot.

Main results:

* `Pool.places_enter`, `Pool.places_leave` — **nobody is overtaken**;
* `Action.mem_places_onPool`, `Action.mem_holders_onPool` — an action leaves the places of all
  tasks but its own as they are;
* `Action.served_onPool` — **slots are served in the order in which they were asked for**.
-/

import ChapterAssembly.Proofs.Run.Tasks

set_option relaxedAutoImplicit false
set_option autoImplicit false

namespace ChapterAssembly

namespace Content

/-! ### The pool as a queue -/

namespace Pool

variable {α : Type} (p : Pool α) (a : α)

/-- All who have a place, in the order in which they got it: those who hold a slot, and then those
who wait for one. -/
def places : List α := p.holders ++ p.waiting

/-- All who ever got a slot, in the order in which they got it, and then those who wait for one. -/
def served : List α := p.granted.reverse ++ p.waiting

theorem mem_places_of_holders {b : α} (h : b ∈ p.holders) : b ∈ p.places :=
  List.mem_append_left _ h

@[simp] theorem enter_size : (p.enter a).size = p.size := by
  unfold enter; split <;> rfl

/-- As long as a slot is free, nobody waits. -/
theorem waiting_eq_nil (h : p.holders.length < p.size) : p.waiting = [] := by
  by_contra hw
  have := p.full_of_waiting hw
  omega

/-- **Whoever asks for a slot stands behind all others.** -/
theorem places_enter : (p.enter a).places = p.places ++ [a] := by
  unfold enter places
  split
  · next h => simp [p.waiting_eq_nil h]
  · simp

/-- Whoever asks while nobody holds a slot gets one. -/
theorem holds_enter [DecidableEq α] (h : p.holders = []) : (p.enter a).holds a = true := by
  simp [enter, h, p.size_pos, holds]

theorem served_enter : (p.enter a).served = p.served ++ [a] := by
  unfold enter served
  split
  · next h => simp [p.waiting_eq_nil h]
  · simp

theorem holders_subset_enter : p.holders ⊆ (p.enter a).holders := by
  unfold enter
  split
  · exact List.subset_append_left _ _
  · exact List.Subset.refl _

variable [DecidableEq α]

@[simp] theorem holds_iff : p.holds a = true ↔ a ∈ p.holders := by simp [holds]

@[simp] theorem leave_size : (p.leave a).size = p.size := by
  unfold leave release giveUp
  split
  · split
    · split <;> rfl
    · rfl
  · rfl

/-- **Whoever leaves makes room for those behind, who keep their order.** -/
theorem places_leave : (p.leave a).places = p.places.erase a := by
  unfold leave places
  by_cases ha : a ∈ p.holders
  · rw [if_pos ((p.holds_iff a).2 ha), List.erase_append_left _ ha, release, dif_pos ha]
    split
    · next hw => simp [hw]
    · next w ws hw => simp [hw]
  · rw [if_neg (fun h => ha ((p.holds_iff a).1 h)), List.erase_append_right _ ha]
    rfl

theorem served_leave : (p.leave a).served =
    if a ∈ p.holders then p.served else p.granted.reverse ++ p.waiting.erase a := by
  unfold leave served
  by_cases ha : a ∈ p.holders
  · rw [if_pos ((p.holds_iff a).2 ha), if_pos ha, release, dif_pos ha]
    split
    · next hw => simp [hw]
    · next w ws hw => simp [hw]
  · rw [if_neg (fun h => ha ((p.holds_iff a).1 h)), if_neg ha]
    rfl

theorem served_leave_sublist : (p.leave a).served.Sublist p.served := by
  rw [served_leave]
  split
  · exact List.Sublist.refl _
  · exact List.Sublist.append_left List.erase_sublist _

variable {p a} {b : α}

/-- Whoever leaves does not concern the places of others. -/
theorem mem_places_leave (hne : b ≠ a) : b ∈ (p.leave a).places ↔ b ∈ p.places := by
  rw [places_leave, List.mem_erase_of_ne hne]

theorem nodup_leave (h : p.places.Nodup) : (p.leave a).places.Nodup := by
  rw [places_leave]
  exact h.erase a

theorem not_mem_leave (h : p.places.Nodup) : a ∉ (p.leave a).places := by
  rw [places_leave]
  exact h.not_mem_erase

/-- Whoever holds a slot keeps it while another one leaves. -/
theorem mem_holders_leave (h : b ∈ p.holders) (hne : b ≠ a) : b ∈ (p.leave a).holders := by
  unfold leave
  split
  · unfold release
    split
    · split
      · exact (List.mem_erase_of_ne hne).2 h
      · exact List.mem_append_left _ ((List.mem_erase_of_ne hne).2 h)
    · exact h
  · exact h

theorem mem_served_leave (h : b ∈ p.served) (hne : b ≠ a) : b ∈ (p.leave a).served := by
  rw [served_leave]
  split
  · exact h
  · rcases List.mem_append.1 h with h | h
    · exact List.mem_append_left _ h
    · exact List.mem_append_right _ ((List.mem_erase_of_ne hne).2 h)

end Pool

/-! ### Who asks for slots -/

/-- The task that asks for a slot in an action, with its run. -/
def Action.asker? : Action → Option (Nat × Nat)
  | .queue r i => some (r, i)
  | _ => none

/-- The tasks that have asked for a slot, in the order in which they asked. -/
def askers (acts : List Action) : List (Nat × Nat) := acts.filterMap Action.asker?

theorem askers_snoc (acts : List Action) (a : Action) :
    askers (acts ++ [a]) = askers acts ++ a.asker?.toList := by
  simp only [askers, List.filterMap_append]
  cases h : a.asker? <;> simp [h]

section

variable {a : Action} {p : Nat × Nat} {q : Pool (Nat × Nat)}

theorem Action.asker?_of_task? (h : a.task? ≠ some p) : p ∉ a.asker?.toList := by
  cases a <;> simp_all [task?, asker?, eq_comm]

/-- An action leaves the places of all tasks but its own as they are. -/
theorem Action.mem_places_onPool (h : a.task? ≠ some p) :
    p ∈ (a.onPool q).places ↔ p ∈ q.places := by
  cases a with
  | queue r i =>
      have hne : p ≠ (r, i) := fun heq => h (by simp [task?, heq])
      simp [onPool, Pool.places_enter, hne]
  | answer r i | die r i | drop r i =>
      exact Pool.mem_places_leave fun heq => h (by simp [task?, heq])
  | _ => rfl

theorem Action.mem_holders_onPool (h : a.task? ≠ some p) (hp : p ∈ q.holders) :
    p ∈ (a.onPool q).holders := by
  cases a with
  | queue r i => exact q.holders_subset_enter _ hp
  | answer r i | die r i | drop r i =>
      exact Pool.mem_holders_leave hp fun heq => h (by simp [task?, heq])
  | _ => exact hp

theorem Action.mem_served_onPool (h : a.task? ≠ some p) (hp : p ∈ q.served) :
    p ∈ (a.onPool q).served := by
  cases a with
  | queue r i => simp [onPool, Pool.served_enter, hp]
  | answer r i | die r i | drop r i =>
      exact Pool.mem_served_leave hp fun heq => h (by simp [task?, heq])
  | _ => exact hp

@[simp] theorem Action.onPool_size : (a.onPool q).size = q.size := by
  cases a <;> simp [onPool]

/-- Nobody has two places if nobody asks who has one. -/
theorem Action.nodup_onPool (h : q.places.Nodup)
    (hnew : ∀ p, a.asker? = some p → p ∉ q.places) : (a.onPool q).places.Nodup := by
  cases a with
  | queue r i =>
      have hnew := hnew (r, i) rfl
      rw [onPool, Pool.places_enter]
      exact List.nodup_append.2 ⟨h, by simp, by rintro b hb _ hc rfl; simp_all⟩
  | answer r i | die r i | drop r i => exact Pool.nodup_leave h
  | _ => exact h

/-- The tasks that were served stand in the order in which they asked. -/
theorem Action.served_onPool {asked : List (Nat × Nat)} (h : q.served.Sublist asked) :
    (a.onPool q).served.Sublist (asked ++ a.asker?.toList) := by
  cases a with
  | queue r i =>
      rw [onPool, Pool.served_enter]
      exact h.append_right _
  | answer r i | die r i | drop r i =>
      change (q.leave (r, i)).served.Sublist (asked ++ [])
      rw [List.append_nil]
      exact (Pool.served_leave_sublist ..).trans h
  | _ => simpa [onPool, asker?] using h

end

end Content

end ChapterAssembly
