/-
**Which headers a request is sent with.**

The headers that every request is sent with and those of the request itself are maps, and a map can
be gone through in any order.  What is sent does not depend on it: every name that one of the maps
gives a value is sent once, with the value that the request itself gives it if it does, in whatever
letter case.  Nothing is sent if a name or a value cannot be, also if its value would not count.

Main definitions:

* `Request.Valid` — a header that can be sent;
* `Request.Apart` — no two names of a map differ in letter case only;
* `Request.Gives` — a map gives a name a value;
* `Request.Merged` — what is sent, given the two maps.

Main results:

* `Request.setAll_eq_ok_iff`, `Request.exists_invalid_of_setAll` — headers are set one after the
  other, up to the first that cannot be sent;
* `Request.mem_set`, `Request.mem_setEach` — what a name means after one header was set, and after
  all headers of a map were;
* `Request.Merged.perm` — there is one way to merge two maps;
* `Request.headersOf_merged` — **the headers of a request are those of the two maps merged, in
  whatever order they are gone through**.
-/

import Mathlib.Data.List.Nodup
import ChapterAssembly.Fetch.Request

set_option relaxedAutoImplicit false
set_option autoImplicit false

namespace ChapterAssembly

namespace Request

variable {name value n v : Text} {hs rest standard own merged : List (Text × Text)}

/-! ### Maps of headers -/

/-- A header that can be sent. -/
def Valid (h : Text × Text) : Prop := isName h.1 = true ∧ isValue h.2 = true

instance (h : Text × Text) : Decidable (Valid h) := inferInstanceAs (Decidable (_ ∧ _))

/-- No two names differ in letter case only. -/
def Apart (hs : List (Text × Text)) : Prop := (hs.map fun h => Text.asciiLower h.1).Nodup

instance (hs : List (Text × Text)) : Decidable (Apart hs) :=
  inferInstanceAs (Decidable (List.Nodup _))

/-- The name `n`, in lower case, is given the value `v`, whatever the letter case in which the name
is written. -/
def Gives (hs : List (Text × Text)) (n v : Text) : Prop :=
  ∃ name, (name, v) ∈ hs ∧ Text.asciiLower name = n

/-- **What is sent, given two maps**: every name once, with the value that the second map gives it,
or with that of the first if the second gives it none. -/
structure Merged (standard own merged : List (Text × Text)) : Prop where
  nodup : (merged.map Prod.fst).Nodup
  mem_iff : ∀ n v, (n, v) ∈ merged ↔ Gives own n v ∨ Gives standard n v ∧ ∀ w, ¬ Gives own n w

theorem not_gives_nil : ¬ Gives [] n v := by
  rintro ⟨_, hmem, -⟩
  cases hmem

theorem gives_cons : Gives ((name, value) :: hs) n v ↔
    (n = Text.asciiLower name ∧ v = value) ∨ Gives hs n v := by
  constructor
  · rintro ⟨m, hmem, rfl⟩
    rcases List.mem_cons.1 hmem with heq | hmem
    · obtain ⟨rfl, rfl⟩ := Prod.mk.inj heq
      exact .inl ⟨rfl, rfl⟩
    · exact .inr ⟨m, hmem, rfl⟩
  · rintro (⟨rfl, rfl⟩ | ⟨m, hmem, rfl⟩)
    · exact ⟨name, List.mem_cons_self, rfl⟩
    · exact ⟨m, List.mem_cons_of_mem _ hmem, rfl⟩

/-- The order of a map does not count. -/
theorem gives_congr (h : rest.Perm hs) : Gives rest n v ↔ Gives hs n v :=
  exists_congr fun _ => and_congr_left' h.mem_iff

theorem Apart.congr (h : Apart hs) (hperm : rest.Perm hs) : Apart rest :=
  (hperm.map _).nodup_iff.2 h

/-- The first name of a map is given no value by the rest. -/
theorem Apart.not_gives_head (h : Apart ((name, value) :: hs)) :
    ¬ Gives hs (Text.asciiLower name) v := by
  rintro ⟨m, hmem, hm⟩
  exact (List.nodup_cons.1 h).1 (List.mem_map.2 ⟨_, hmem, hm⟩)

theorem Apart.tail {q : Text × Text} (h : Apart (q :: hs)) : Apart hs :=
  (List.nodup_cons.1 h).2

/-! ### Headers that are set -/

theorem names_set (name value : Text) (hs : List (Text × Text)) :
    (set name value hs).map Prod.fst =
      if name ∈ hs.map Prod.fst then hs.map Prod.fst else hs.map Prod.fst ++ [name] := by
  induction hs with
  | nil => rfl
  | cons h hs ih =>
      obtain ⟨m, w⟩ := h
      rw [set]
      by_cases hm : m = name
      · simp [hm]
      · have hmem : name ∈ ((m, w) :: hs).map Prod.fst ↔ name ∈ hs.map Prod.fst := by
          simp [Ne.symm hm]
        rw [if_neg hm, List.map_cons, ih]
        simp only [hmem]
        split
        · rfl
        · rfl

theorem nodup_set (h : (hs.map Prod.fst).Nodup) : ((set name value hs).map Prod.fst).Nodup := by
  rw [names_set]
  split
  · exact h
  · next hmem => exact List.concat_eq_append ▸ List.Nodup.concat hmem h

/-- Where no name stands twice, what it means is what stands with it. -/
theorem mem_iff_lookup (h : (hs.map Prod.fst).Nodup) : (n, v) ∈ hs ↔ hs.lookup n = some v := by
  induction hs with
  | nil => simp
  | cons q hs ih =>
      obtain ⟨m, w⟩ := q
      obtain ⟨hm, hnodup⟩ := List.nodup_cons.1 h
      rw [List.mem_cons, Prod.mk.injEq, List.lookup_cons]
      by_cases hn : n = m
      · subst hn
        have hnot : (n, v) ∉ hs := fun hmem => hm (List.mem_map.2 ⟨_, hmem, rfl⟩)
        simp [hnot, eq_comm]
      · have hbeq : (n == m) = false := by simpa using hn
        simp [hn, hbeq, ih hnodup]

/-- **What a map holds after a header was set**: that one, and those of other names. -/
theorem mem_set (h : (hs.map Prod.fst).Nodup) :
    (n, v) ∈ set name value hs ↔ (n = name ∧ v = value) ∨ n ≠ name ∧ (n, v) ∈ hs := by
  rw [mem_iff_lookup (nodup_set h), lookup_set, mem_iff_lookup h]
  by_cases hn : n = name
  · simp [hn, eq_comm]
  · simp [hn]

/-- Some headers with others set one after the other, names in lower case. -/
def setEach (hs rest : List (Text × Text)) : List (Text × Text) :=
  rest.foldl (fun hs h => set (Text.asciiLower h.1) h.2 hs) hs

theorem nodup_setEach (h : (hs.map Prod.fst).Nodup) (rest : List (Text × Text)) :
    ((setEach hs rest).map Prod.fst).Nodup := by
  induction rest generalizing hs with
  | nil => exact h
  | cons q rest ih => exact ih (nodup_set h)

/-- **A name means the value that a map gives it, or else what it meant.** -/
theorem mem_setEach (h : (hs.map Prod.fst).Nodup) (hrest : Apart rest) :
    (n, v) ∈ setEach hs rest ↔ Gives rest n v ∨ (n, v) ∈ hs ∧ ∀ w, ¬ Gives rest n w := by
  induction rest generalizing hs with
  | nil => simp [setEach, not_gives_nil]
  | cons q rest ih =>
      obtain ⟨m, w⟩ := q
      have hset : (n, v) ∈ setEach hs ((m, w) :: rest) ↔
          Gives rest n v ∨ (n, v) ∈ set (Text.asciiLower m) w hs ∧ ∀ u, ¬ Gives rest n u :=
        ih (nodup_set h) hrest.tail
      simp only [hset, mem_set h, gives_cons]
      by_cases hn : n = Text.asciiLower m
      · -- the rest of the map gives the name no value
        subst hn
        simp [hrest.not_gives_head]
      · simp [hn]

/-! ### Headers of a request -/

/-- Headers are set just if all can be sent. -/
theorem setAll_eq_ok_iff : setAll hs rest = .ok merged ↔
    (∀ h ∈ rest, Valid h) ∧ setEach hs rest = merged := by
  induction rest generalizing hs with
  | nil => simp [setAll, setEach]
  | cons q rest ih =>
      obtain ⟨m, w⟩ := q
      rw [setAll, List.forall_mem_cons]
      split
      · next hvalid =>
          have hvalid : Valid (m, w) := by simpa [Valid] using hvalid
          rw [ih]
          simp only [hvalid, true_and]
          rfl
      · next hvalid =>
          have hvalid : ¬ Valid (m, w) := by simpa [Valid] using hvalid
          simp [hvalid]

/-- **A failure names a header that cannot be sent**, the first of them. -/
theorem exists_invalid_of_setAll {e : FetchError} (h : setAll hs rest = .error e) :
    ∃ before bad after, rest = before ++ bad :: after ∧ (∀ h ∈ before, Valid h) ∧ ¬ Valid bad ∧
      e = .invalidHeader bad.1 := by
  induction rest generalizing hs with
  | nil => cases h
  | cons q rest ih =>
      obtain ⟨m, w⟩ := q
      rw [setAll] at h
      split at h
      · next hvalid =>
          obtain ⟨before, bad, after, rfl, hbefore, hbad, he⟩ := ih h
          have hvalid : Valid (m, w) := by simpa [Valid] using hvalid
          exact ⟨(m, w) :: before, bad, after, rfl, List.forall_mem_cons.2 ⟨hvalid, hbefore⟩,
            hbad, he⟩
      · next hvalid =>
          refine ⟨[], (m, w), rest, rfl, by simp, by simpa [Valid] using hvalid, ?_⟩
          exact (Except.error.inj h).symm

/-! ### Merged maps -/

/-- The headers of both maps, set one after the other, are the two maps merged. -/
theorem merged_setEach (hstandard : Apart standard) (hown : Apart own) :
    Merged standard own (setEach [] (standard ++ own)) := by
  have hnil : (([] : List (Text × Text)).map Prod.fst).Nodup := List.nodup_nil
  refine ⟨nodup_setEach hnil _, fun n v => ?_⟩
  have hfirst : (n, v) ∈ setEach [] standard ↔ Gives standard n v := by
    rw [mem_setEach hnil hstandard]
    simp
  rw [setEach, List.foldl_append, ← hfirst]
  exact mem_setEach (nodup_setEach hnil standard) hown

/-- The order of the two maps does not count. -/
theorem Merged.congr {s o : List (Text × Text)} (h : Merged s o merged) (hs : s.Perm standard)
    (ho : o.Perm own) : Merged standard own merged where
  nodup := h.nodup
  mem_iff n v := by
    rw [h.mem_iff, gives_congr ho, gives_congr hs]
    simp only [gives_congr ho]

/-- **There is one way to merge two maps**, up to the order of the names. -/
theorem Merged.perm {merged' : List (Text × Text)} (h : Merged standard own merged)
    (h' : Merged standard own merged') : merged.Perm merged' :=
  (List.perm_ext_iff_of_nodup h.nodup.of_map h'.nodup.of_map).2 fun ⟨n, v⟩ =>
    (h.mem_iff n v).trans (h'.mem_iff n v).symm

/-- **The headers of a request are those of two maps merged**, in whatever order the maps are gone
through.  They are there just if every header of both maps can be sent, and a failure names one that
cannot. -/
theorem headersOf_merged (hstandard : Apart standard) (hown : Apart own) :
    ∃ merged, Merged standard own merged ∧
      ∀ s o, s.Perm standard → o.Perm own →
        ((∃ sent, headersOf s o = .ok sent) ↔ ∀ h ∈ standard ++ own, Valid h) ∧
        (∀ sent, headersOf s o = .ok sent → sent.Perm merged) ∧
        ∀ e, headersOf s o = .error e →
          ∃ bad ∈ standard ++ own, ¬ Valid bad ∧ e = .invalidHeader bad.1 := by
  refine ⟨_, merged_setEach hstandard hown, fun s o hs ho => ⟨?_, ?_, ?_⟩⟩
  · simp only [headersOf, setAll_eq_ok_iff, exists_and_left, exists_eq', and_true,
      (hs.append ho).mem_iff]
  · intro sent hsent
    obtain ⟨-, rfl⟩ := setAll_eq_ok_iff.1 hsent
    have hmerged := merged_setEach (hstandard.congr hs) (hown.congr ho)
    exact (hmerged.congr hs ho).perm (merged_setEach hstandard hown)
  · intro e he
    obtain ⟨before, bad, after, hall, -, hbad, rfl⟩ := exists_invalid_of_setAll he
    have hmem : bad ∈ s ++ o := by simp [hall]
    exact ⟨bad, (hs.append ho).mem_iff.1 hmem, hbad, rfl⟩

/-- Headers that every request is sent with. -/
def siteHeaders : List (Text × Text) := [("Referer", "a"), ("X-Source", "s")]

/-- The headers of one request, with one of these names in another letter case. -/
def pageHeaders : List (Text × Text) := [("REFERER", "b")]

/-- The request has its own value for the name that both maps have, in every order. -/
theorem headersOf_merged_referer : Apart siteHeaders ∧ Apart pageHeaders ∧
    ∃ merged, Merged siteHeaders pageHeaders merged ∧
      merged.Perm [("referer", "b"), ("x-source", "s")] ∧
      ∀ s o, s.Perm siteHeaders → o.Perm pageHeaders →
        ∃ sent, headersOf s o = .ok sent ∧ sent.Perm merged := by
  have hsite : Apart siteHeaders := by decide
  have hpage : Apart pageHeaders := by decide
  have hvalid : ∀ h ∈ siteHeaders ++ pageHeaders, Valid h := by decide
  have hsent : headersOf siteHeaders pageHeaders = .ok [("referer", "b"), ("x-source", "s")] := rfl
  obtain ⟨merged, hmerged, hall⟩ := headersOf_merged hsite hpage
  obtain ⟨-, hperm, -⟩ := hall siteHeaders pageHeaders (.refl _) (.refl _)
  refine ⟨hsite, hpage, merged, hmerged, (hperm _ hsent).symm, fun s o hs ho => ?_⟩
  obtain ⟨hok, hperm, -⟩ := hall s o hs ho
  obtain ⟨sent, hsent⟩ := hok.2 hvalid
  exact ⟨sent, hsent, hperm sent hsent⟩

/-- A value that cannot be sent counts, also where the request has its own. -/
example : headersOf [("Referer", "\n")] pageHeaders = .error (.invalidHeader "Referer") := rfl

end Request

end ChapterAssembly
