/-
**Sets of characters as ranges of code points.**

A Unicode property holds of a few hundred ranges of code points.  A `CharSet` keeps such ranges in
ascending order, apart from each other, and answers membership by bisection.  Tables are written
as hexadecimal ranges in a string (`"41-5A 61-7A AA"`), which `CharSet.ofHex` reads.

Main definitions:

* `ChapterAssembly.CharSet` — a set of code points;
* `CharSet.contains` — membership;
* `CharSet.union`, `CharSet.inter`, `CharSet.diff`, `CharSet.compl` — the set operations, where the
  complement is taken in the Unicode scalar values.
-/

import ChapterAssembly.Text.Basic

set_option relaxedAutoImplicit false
set_option autoImplicit false

namespace ChapterAssembly

/-- A set of code points, given by inclusive ranges in ascending order. -/
structure CharSet where
  ranges : Array (Nat × Nat)
deriving Repr, BEq, Inhabited

namespace CharSet

/-- Membership in the ranges at positions `[lo, hi)` of an ascending array, by bisection. -/
def containsBetween (a : Array (Nat × Nat)) (n lo hi : Nat) : Bool :=
  if _h : lo < hi then
    let mid := (lo + hi) / 2
    match a[mid]? with
    | none => false
    | some (l, u) =>
      if n < l then containsBetween a n lo mid
      else if u < n then containsBetween a n (mid + 1) hi
      else true
  else false
termination_by hi - lo
decreasing_by all_goals omega

/-- The code point `n` is in the set. -/
def containsNat (s : CharSet) (n : Nat) : Bool := containsBetween s.ranges n 0 s.ranges.size

/-- The character `c` is in the set. -/
def contains (s : CharSet) (c : Char) : Bool := s.containsNat c.toNat

/-- Ascending ranges with overlapping and touching neighbours united. -/
def coalesce : List (Nat × Nat) → List (Nat × Nat)
  | [] => []
  | (l, u) :: rest =>
    match coalesce rest with
    | [] => [(l, u)]
    | (l', u') :: more =>
      if l' ≤ u + 1 then (min l l', max u u') :: more else (l, u) :: (l', u') :: more

/-- The set of the code points in some of the given ranges, in any order. -/
def ofRanges (rs : List (Nat × Nat)) : CharSet :=
  ⟨(coalesce ((rs.filter fun r => r.1 ≤ r.2).mergeSort fun a b => a.1 ≤ b.1)).toArray⟩

/-- No character at all. -/
def empty : CharSet := ⟨#[]⟩

/-- The set with the one member `c`. -/
def singleton (c : Char) : CharSet := ⟨#[(c.toNat, c.toNat)]⟩

/-- The set of the characters from `a` to `b`. -/
def range (a b : Nat) : CharSet := if a ≤ b then ⟨#[(a, b)]⟩ else empty

def isEmpty (s : CharSet) : Bool := s.ranges.isEmpty

def union (s t : CharSet) : CharSet := ofRanges (s.ranges.toList ++ t.ranges.toList)

/-- The gaps from `start` on between ascending ranges, up to `top`. -/
def gaps (start top : Nat) : List (Nat × Nat) → List (Nat × Nat)
  | [] => if start ≤ top then [(start, top)] else []
  | (l, u) :: rest =>
    if start < l then (start, l - 1) :: gaps (u + 1) top rest else gaps (max start (u + 1)) top rest

/-- The code points up to U+10FFFF that are not in the set. -/
def complAll (s : CharSet) : CharSet := ⟨(gaps 0 0x10FFFF s.ranges.toList).toArray⟩

def inter (s t : CharSet) : CharSet := (s.complAll.union t.complAll).complAll

def diff (s t : CharSet) : CharSet := s.inter t.complAll

/-- The members of exactly one of the two sets. -/
def symmDiff (s t : CharSet) : CharSet := (s.diff t).union (t.diff s)

/-- The Unicode scalar values: all code points but the surrogates. -/
def scalars : CharSet := ⟨#[(0, 0xD7FF), (0xE000, 0x10FFFF)]⟩

/-- The characters that are not in the set. -/
def compl (s : CharSet) : CharSet := s.complAll.inter scalars

/-! ### Reading tables -/

/-- A hexadecimal number at the start of a text, and the rest. -/
def hexNumber (acc : Nat) : Text → Nat × Text
  | [] => (acc, [])
  | c :: t =>
    match Text.hexValue? c with
    | some d => hexNumber (acc * 16 + d) t
    | none => (acc, c :: t)

/-- One range of a table: `41` or `41-5A`. -/
def hexRange (t : Text) : Nat × Nat :=
  match hexNumber 0 t with
  | (l, '-' :: rest) => (l, (hexNumber 0 rest).1)
  | (l, _) => (l, l)

/-- The words of a text, that is, its parts between blank characters. -/
def words (t : Text) : List Text := (t.splitBy fun a b => Text.isBlank a == Text.isBlank b).filter
  fun w => !Text.isBlankText w

/-- The set written by ascending hexadecimal ranges. -/
def ofHex (s : String) : CharSet := ⟨((words s.toList).map hexRange).toArray⟩

end CharSet

end ChapterAssembly
