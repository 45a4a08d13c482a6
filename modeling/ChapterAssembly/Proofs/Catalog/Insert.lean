/-
**One more entry in a catalog.**

An entry takes the place of the first one with its index, or comes in addition, and then the catalog
is sorted by the indices.  The sort is stable, so for every index the first entry with it is the one
that stood first before; and a catalog in which every index stands once keeps that.

Main definitions:

* `Catalog.Ordered` — the indices of a catalog increase strictly;
* `Catalog.revised` — a catalog after some entries, each of which is written and read.

Main results:

* `Catalog.find?_insert` — **the entry of its index is the new one, all others are what they were**;
* `Catalog.Ordered.insert`, `Catalog.mem_index_insert` — a catalog in order stays in order, with one
  index more at most;
* `Catalog.Ordered.revised`, `Catalog.mem_index_revised`, `Catalog.Ordered.mem_revised_last` — what
  a history of entries leaves: one entry for each index, the last one.
-/

import ChapterAssembly.Proofs.Catalog.Reading

set_option relaxedAutoImplicit false
set_option autoImplicit false

namespace ChapterAssembly

namespace Catalog

variable {c : Catalog} {d e : Entry} {i : UInt32}

/-! ### Stable sorting -/

theorem index_le_trans (a b c : Entry) (hab : decide (a.index ≤ b.index) = true)
    (hbc : decide (b.index ≤ c.index) = true) : decide (a.index ≤ c.index) = true := by
  rw [decide_eq_true_eq] at *
  exact UInt32.le_trans hab hbc

theorem index_le_total (a b : Entry) :
    (decide (a.index ≤ b.index) || decide (b.index ≤ a.index)) = true := by
  simpa using UInt32.le_total a.index b.index

/-- Sorting by the index keeps the order of the entries with one index. -/
theorem filter_mergeSort (c : Catalog) (i : UInt32) :
    (c.mergeSort fun a b => a.index ≤ b.index).filter (·.index = i) =
      c.filter (·.index = i) := by
  have hpairwise : (c.filter (·.index = i)).Pairwise fun a b => decide (a.index ≤ b.index) := by
    refine List.pairwise_iff_forall_sublist.2 fun {a b} hab => ?_
    have ha := (List.mem_filter.1 (hab.subset (by simp : a ∈ [a, b]))).2
    have hb := (List.mem_filter.1 (hab.subset (by simp : b ∈ [a, b]))).2
    simp_all
  have hsub := List.sublist_mergeSort index_le_trans index_le_total hpairwise List.filter_sublist
  have hlength : (c.filter (·.index = i)).length =
      ((c.mergeSort fun a b => a.index ≤ b.index).filter (·.index = i)).length :=
    ((List.mergeSort_perm c _).filter _).length_eq.symm
  refine (List.Sublist.eq_of_length ?_ hlength).symm
  simpa using hsub.filter fun e => decide (e.index = i)

/-! ### The first entry with an index -/

theorem eq_or_mem_of_mem_insert (h : d ∈ c.insert e) : d = e ∨ d ∈ c := by
  have hplace : ∀ c : Catalog, d ∈ place e c → d = e ∨ d ∈ c := by
    intro c
    induction c with
    | nil => simp [place]
    | cons a c ih =>
        rw [place]
        split
        · rintro (_ | ⟨_, h⟩)
          · exact .inl rfl
          · exact .inr (List.mem_cons_of_mem a h)
        · rintro (_ | ⟨_, h⟩)
          · exact .inr List.mem_cons_self
          · exact (ih h).imp_right (List.mem_cons_of_mem a)
  exact hplace c (List.mem_mergeSort.1 h)

theorem find?_place (e : Entry) (c : Catalog) (i : UInt32) :
    (place e c).find? (·.index = i) =
      if i = e.index then some e else c.find? (·.index = i) := by
  induction c with
  | nil => by_cases h : i = e.index <;> simp [place, h, eq_comm]
  | cons d c ih =>
      rw [place]
      by_cases hd : d.index = e.index
      · rw [if_pos hd]
        by_cases h : i = e.index <;> simp [h, hd, eq_comm]
      · rw [if_neg hd, List.find?_cons, ih]
        by_cases h : i = e.index
        · simp [h, hd]
        · simp [h, List.find?_cons]

/-- **The entry of its index is the new one, all others are what they were**, in every catalog. -/
theorem find?_insert (e : Entry) (c : Catalog) (i : UInt32) :
    (insert e c).find? (·.index = i) =
      if i = e.index then some e else c.find? (·.index = i) := by
  rw [insert, ← List.head?_filter, filter_mergeSort, List.head?_filter, find?_place]

/-- Trimming entries does not change which are there. -/
theorem find?_trimmed (c : Catalog) (i : UInt32) :
    (c.map Entry.trimmed).find? (·.index = i) = (c.find? (·.index = i)).map Entry.trimmed := by
  rw [List.find?_map]
  rfl

/-- The new entry is the first one with its index, also when the catalog was written and read. -/
theorem find?_insert_self (e : Entry) (c : Catalog) :
    ((c.insert e).map Entry.trimmed).find? (·.index = e.index) = some e.trimmed := by
  rw [find?_trimmed, find?_insert, if_pos rfl, Option.map_some]

/-! ### Catalogs in order -/

/-- **The indices of a catalog increase strictly.** -/
def Ordered (c : Catalog) : Prop := c.Pairwise fun a b => a.index < b.index

theorem map_index_place (e : Entry) (c : Catalog) : (place e c).map (·.index) =
    if e.index ∈ c.map (·.index) then c.map (·.index) else c.map (·.index) ++ [e.index] := by
  induction c with
  | nil => rfl
  | cons d c ih =>
      rw [place]
      by_cases hd : d.index = e.index
      · simp [hd]
      · rw [if_neg hd, List.map_cons, ih]
        split <;> simp_all [eq_comm]

theorem Ordered.nodup (h : Ordered c) : (c.map (·.index)).Nodup :=
  List.pairwise_map.2 (h.imp UInt32.ne_of_lt)

/-- **A catalog in order stays in order.** -/
theorem Ordered.insert (h : Ordered c) (e : Entry) : Ordered (c.insert e) := by
  have hplace : ((place e c).map (·.index)).Nodup := by
    rw [map_index_place]
    split
    · exact h.nodup
    · next hmem =>
        refine List.nodup_append.2 ⟨h.nodup, by simp, fun i hi j hj hij => hmem ?_⟩
        exact List.mem_singleton.1 hj ▸ hij ▸ hi
  have hnodup : ((c.insert e).map (·.index)).Nodup :=
    (((List.mergeSort_perm _ _).map _).nodup_iff).2 hplace
  have hsorted := List.pairwise_mergeSort index_le_trans index_le_total (place e c)
  refine (hsorted.and (List.pairwise_map.1 hnodup)).imp fun hab => ?_
  exact UInt32.lt_of_le_of_ne (of_decide_eq_true hab.1) hab.2

theorem Ordered.trimmed (h : Ordered c) : Ordered (c.map Entry.trimmed) := List.pairwise_map.2 h

/-- In a catalog in order, an entry is the first one with its index. -/
theorem Ordered.find?_eq_some_iff (h : Ordered c) :
    c.find? (·.index = i) = some e ↔ e ∈ c ∧ e.index = i := by
  induction c with
  | nil => simp
  | cons d c ih =>
      obtain ⟨hd, hc⟩ := List.pairwise_cons.1 h
      rw [List.find?_cons, List.mem_cons]
      by_cases hi : d.index = i
      · simp only [hi, decide_true]
        constructor
        · rintro ⟨⟩
          exact ⟨.inl rfl, hi⟩
        · rintro ⟨rfl | he, hei⟩
          · rfl
          · exact absurd (hd e he) (by simp [hi, hei])
      · simp only [hi, decide_false, ih hc]
        constructor
        · exact fun ⟨he, hei⟩ => ⟨.inr he, hei⟩
        · rintro ⟨rfl | he, hei⟩
          · exact absurd hei hi
          · exact ⟨he, hei⟩

theorem mem_index_insert : i ∈ (c.insert e).map (·.index) ↔ i = e.index ∨ i ∈ c.map (·.index) := by
  have hperm : ((c.insert e).map (·.index)).Perm ((place e c).map (·.index)) :=
    (List.mergeSort_perm _ _).map _
  rw [hperm.mem_iff, map_index_place]
  split
  · next hmem =>
      refine ⟨.inr, ?_⟩
      rintro (rfl | h)
      · exact hmem
      · exact h
  · rw [List.mem_append, List.mem_singleton, or_comm]

/-! ### Histories -/

/-- A catalog after some entries, each of which is written and read. -/
def revised (c : Catalog) (es : List Entry) : Catalog :=
  es.foldl (fun c e => (c.insert e).map Entry.trimmed) c

@[simp] theorem revised_nil (c : Catalog) : c.revised [] = c := rfl

@[simp] theorem revised_cons (c : Catalog) (e : Entry) (es : List Entry) :
    c.revised (e :: es) = revised ((c.insert e).map Entry.trimmed) es := rfl

theorem revised_append (c : Catalog) (es fs : List Entry) :
    c.revised (es ++ fs) = (c.revised es).revised fs := List.foldl_append

theorem Ordered.revised (h : Ordered c) (es : List Entry) : Ordered (c.revised es) := by
  induction es generalizing c with
  | nil => exact h
  | cons e es ih => exact ih (h.insert e).trimmed

/-- The indices of a catalog after some entries are its own and theirs. -/
theorem mem_index_revised {es : List Entry} :
    i ∈ (c.revised es).map (·.index) ↔ i ∈ es.map (·.index) ∨ i ∈ c.map (·.index) := by
  induction es generalizing c with
  | nil => simp
  | cons e es ih =>
      have htrimmed : ((c.insert e).map Entry.trimmed).map (·.index) =
          (c.insert e).map (·.index) := List.map_map
      rw [revised_cons, ih, htrimmed, mem_index_insert, List.map_cons, List.mem_cons]
      tauto

/-- **What later entries have another index than stays** as it is read. -/
theorem find?_revised {es : List Entry} (h : ∀ e ∈ es, e.index ≠ i)
    (hd : c.find? (·.index = i) = some d.trimmed) :
    (c.revised es).find? (·.index = i) = some d.trimmed := by
  induction es generalizing c with
  | nil => exact hd
  | cons e es ih =>
      rw [List.forall_mem_cons] at h
      refine ih h.2 ?_
      rw [find?_trimmed, find?_insert, if_neg h.1.symm, hd, Option.map_some, Entry.trimmed_trimmed]

/-- **The last entry with an index** is the one that is read. -/
theorem find?_revised_last {before later : List Entry} (h : ∀ f ∈ later, f.index ≠ e.index) :
    (c.revised (before ++ e :: later)).find? (·.index = e.index) = some e.trimmed := by
  rw [revised_append, revised_cons]
  exact find?_revised h (find?_insert_self e _)

theorem Ordered.mem_revised_last {before later : List Entry} (h : Ordered c)
    (hlater : ∀ f ∈ later, f.index ≠ e.index) (hd : d.index = e.index) :
    d ∈ c.revised (before ++ e :: later) ↔ d = e.trimmed := by
  have hmem := (h.revised (before ++ e :: later)).find?_eq_some_iff (e := d) (i := e.index)
  rw [find?_revised_last hlater, Option.some_inj, and_iff_left hd] at hmem
  rw [← hmem, eq_comm]

end Catalog

end ChapterAssembly
