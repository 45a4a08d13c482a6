/-
**The paths of a shelf.**

The directory of a book is the base of the shelf with two more names, one for the host of the
book's address and one for the rest of it, and its files stand right in it.

Main definitions:

* `Shelf.stem` — the part of an address that the name of a directory is made of.

Main results:

* `Disk.placeOf_join` — a path with one more name leads one place further;
* `Shelf.directory_eq_ok_iff` — which addresses have a directory, and which one;
* `Shelf.nameOf_eq_sanitize_stem`, `Shelf.ordinary_nameOf` — the name of the directory of a book;
* `Shelf.ordinary_contentName`, `Shelf.ordinary_catalogName` — the names of the files in it.
-/

import Mathlib.Data.List.Basic
import ChapterAssembly.Proofs.Disk
import ChapterAssembly.Store.Shelf

set_option relaxedAutoImplicit false
set_option autoImplicit false

namespace ChapterAssembly

/-! ### Paths with one more name -/

namespace Disk

variable {name : Text}

/-- The names of a path, whether a slash stands at its end or not. -/
def parts (path : Text) : List Text := (Text.splitOnChar '/' path).filter (!·.isEmpty)

theorem names_eq (path : Text) :
    names path = parts path ++ if path.getLast? = some '/' then [['.']] else [] := rfl

theorem mem_parts_iff {path x : Text} (hx : x ≠ ".".toList) : x ∈ parts path ↔ x ∈ names path := by
  rw [names_eq, List.mem_append]
  refine ⟨.inl, fun h => h.resolve_right fun h => ?_⟩
  split at h
  · exact hx (List.mem_singleton.1 h)
  · cases h

theorem parts_join (h : name ≠ []) (hs : '/' ∉ name) (path : Text) :
    parts (Shelf.join path name) = parts path ++ [name] := by
  have hname : (!name.isEmpty) = true := by simpa using h
  unfold Shelf.join parts
  split
  · next hend =>
      rcases List.eq_nil_or_concat path with rfl | ⟨r, c, rfl⟩
      · simp [Text.splitOnChar_of_notMem hs, Text.splitOnChar, h]
      · -- the slash at the end is the one before the name
        obtain rfl : c = '/' := by simpa using hend
        rw [List.concat_eq_append, List.append_assoc, List.singleton_append,
          Text.splitOnChar_append_cons, Text.splitOnChar_append_cons,
          Text.splitOnChar_of_notMem hs]
        simp [Text.splitOnChar, h]
  · rw [Text.splitOnChar_append_cons, Text.splitOnChar_of_notMem hs, List.filter_append]
    simp [h]

theorem getLast?_join (h : name ≠ []) (path : Text) :
    (Shelf.join path name).getLast? = name.getLast? := by
  obtain ⟨r, c, rfl⟩ : ∃ r c, name = r ++ [c] :=
    ⟨_, _, (List.dropLast_append_getLast h).symm⟩
  unfold Shelf.join
  split
  · rw [← List.append_assoc, List.getLast?_concat, List.getLast?_concat]
  · rw [← List.cons_append, ← List.append_assoc, List.getLast?_concat, List.getLast?_concat]

theorem names_join (h : name ≠ []) (hs : '/' ∉ name) (path : Text) :
    names (Shelf.join path name) = parts path ++ [name] := by
  have hlast : (Shelf.join path name).getLast? ≠ some '/' := by
    rw [getLast?_join h]
    exact fun hc => hs (List.mem_of_getLast? hc)
  rw [names_eq, parts_join h hs, if_neg hlast, List.append_nil]

theorem start_join (d : Disk) (hs : '/' ∉ name) (path : Text) :
    d.start (Shelf.join path name) = d.start path := by
  have hhead : (Shelf.join path name).head? = some '/' ↔ path.head? = some '/' := by
    unfold Shelf.join
    cases path with
    | nil =>
        cases name with
        | nil => simp
        | cons c name =>
            have : c ≠ '/' := fun hc => hs (by simp [hc])
            simp [this]
    | cons c path => split <;> simp
  simp only [start, hhead]

/-- **A path with one more name leads one place further.** -/
theorem placeOf_join_onward (d : Disk) (h : name ≠ []) (hs : '/' ∉ name) (path : Text) :
    d.placeOf (Shelf.join path name) = onward (d.placeOf path) name := by
  have hgoal : goal (d.start path) (names path) = goal (d.start path) (parts path) := by
    rw [names_eq, goal_append]
    split <;> rfl
  rw [placeOf, placeOf, start_join d hs, names_join h hs, goal_append, hgoal]
  rfl

theorem placeOf_join (d : Disk) (ho : Ordinary name) (path : Text) :
    d.placeOf (Shelf.join path name) = d.placeOf path ++ [name] := by
  rw [placeOf_join_onward d ho.ne_nil ho.no_slash, onward_of_ordinary ho]

end Disk

namespace Shelf

open Disk (Ordinary)

variable {s : Shelf} {address path : Text} {u : Url}

/-! ### Names of directories -/

theorem sanitize_append (a b : Text) : sanitize (a ++ b) = sanitize a ++ sanitize b :=
  List.map_append

theorem mem_sanitize {t : Text} {c : Char} (h : c ∈ sanitize t) : c.isAlphanum = true ∨ c = '_' := by
  obtain ⟨d, -, rfl⟩ := List.mem_map.1 h
  by_cases hd : d.isAlphanum = true
  · exact .inl (by simp [hd])
  · exact .inr (by simp [hd])

/-- What a URL says about a book, besides its host. -/
def tail (u : Url) : Text :=
  u.pathText ++ match u.query with
    | some q => '?' :: q
    | none => []

/-- What stands at the two ends of a text without letters and digits is cut off. -/
def core (t : Text) : Text :=
  ((t.dropWhile fun c => !c.isAlphanum).reverse.dropWhile fun c => !c.isAlphanum).reverse

/-- **The part of an address that the name of a directory is made of**: what it says besides its
host, from the first letter or digit to the last one. -/
def stem (u : Url) : Text := if (core (tail u)).isEmpty then "index" else core (tail u)

theorem sanitize_tail (u : Url) : sanitize (tail u) =
    sanitize u.pathText ++ match u.query with
      | some q => '_' :: sanitize q
      | none => [] := by
  rw [tail, sanitize_append]
  cases u.query <;> rfl

/-- A letter or digit stays, everything else becomes an underscore. -/
theorem beq_underscore (c : Char) :
    ((if c.isAlphanum then c else '_') == '_') = !c.isAlphanum := by
  cases h : c.isAlphanum with
  | false => simp
  | true =>
      have : c ≠ '_' := by
        rintro rfl
        revert h
        decide
      simpa using this

theorem trimUnderscores_sanitize (t : Text) :
    trimUnderscores (sanitize t) = sanitize (core t) := by
  have hdrop : ∀ t : Text, (sanitize t).dropWhile (· == '_') =
      sanitize (t.dropWhile fun c => !c.isAlphanum) := by
    intro t
    rw [sanitize, List.dropWhile_map]
    simp only [Function.comp_def, beq_underscore, sanitize]
  rw [trimUnderscores, hdrop, sanitize, ← List.map_reverse, ← sanitize, hdrop, sanitize,
    ← List.map_reverse, core, sanitize]

/-- **The name of the directory of a book** is the stem of its address, with underscores. -/
theorem nameOf_eq_sanitize_stem (u : Url) : nameOf u = sanitize (stem u) := by
  have hname := trimUnderscores_sanitize (tail u)
  have hempty : (sanitize (core (tail u))).isEmpty = (core (tail u)).isEmpty := by
    rw [sanitize, List.isEmpty_map]
  rw [sanitize_tail] at hname
  unfold nameOf
  cases hq : u.query <;> simp only [hq] at hname ⊢ <;> rw [hname, hempty, stem] <;> split <;> rfl

theorem mem_nameOf {c : Char} (h : c ∈ nameOf u) : c.isAlphanum = true ∨ c = '_' :=
  mem_sanitize (nameOf_eq_sanitize_stem u ▸ h)

theorem stem_ne_nil (u : Url) : stem u ≠ [] := by
  unfold stem
  split
  · simp
  · next h => simpa using h

/-- A name of letters, digits and underscores is ordinary. -/
theorem ordinary_nameOf (u : Url) : Ordinary (nameOf u) := by
  have hmem : ∀ c : Char, c.isAlphanum = false → c ≠ '_' → c ∉ nameOf u := by
    intro c hc hne h
    rcases mem_nameOf h with h | h
    · simp [hc] at h
    · exact hne h
  have hdot := hmem '.' (by decide) (by decide)
  constructor
  case ne_nil => simpa [nameOf_eq_sanitize_stem, sanitize] using stem_ne_nil u
  case no_slash => exact hmem '/' (by decide) (by decide)
  case ne_dot => exact fun h => hdot (by simp [h])
  case ne_dots => exact fun h => hdot (by simp [h])

/-! ### Directories and files -/

/-- **Which addresses have a directory**, and which one. -/
theorem directory_eq_ok_iff : s.directory address = .ok path ↔
    ∃ u host, Url.parse address = .ok u ∧ u.hostText? = some host ∧
      path = join (join s.base host) (nameOf u) := by
  unfold directory
  cases Url.parse address with
  | error e => simp
  | ok u => cases hu : u.hostText? <;> simp [hu, eq_comm]

theorem ordinary_of_longer {name : Text} (hs : '/' ∉ name) (h : 2 < name.length) :
    Ordinary name := by
  refine ⟨?_, hs, ?_, ?_⟩ <;> rintro rfl <;> simp at h

theorem ordinary_catalogName : Ordinary catalogName := ordinary_of_longer (by decide) (by decide)

theorem ordinary_contentName (index : UInt32) : Ordinary (contentName index) := by
  refine ordinary_of_longer (fun h => ?_) (by simp [contentName])
  rcases List.mem_append.1 h with h | h
  · rcases List.mem_append.1 h with h | h
    · exact absurd (List.eq_of_mem_replicate h) (by decide)
    · have := Nat.isDigit_of_mem_toDigits (by decide) (by decide) h
      revert this
      decide
  · revert h
    decide

end Shelf

end ChapterAssembly
