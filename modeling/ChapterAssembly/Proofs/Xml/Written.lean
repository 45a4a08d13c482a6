/-
**Written XML is read back.**

Text that is written as character data, in elements without attributes, is read as the content that
was meant.  Only the blank characters at the two ends of a run of character data are lost: they are
written, but do not count when the run is read.

Main definitions:

* `Xml.trim` — a text without the blank characters of XML at its two ends;
* `Xml.StandsFor` — a text stands for some content, wherever it is put in front of a tag.

Main results:

* `Xml.trim_escape` — escaping neither makes nor hides blank characters;
* `Xml.text?_escape` — **an element of escaped text has that text, but for the blank characters at
  its ends**;
* `Xml.standsFor_escape`, `Xml.StandsFor.element`, `Xml.StandsFor.append` — what escaped text,
  elements, and one content after the other stand for.
-/

import Mathlib.Data.List.TakeWhile
import ChapterAssembly.Xml.Element

set_option relaxedAutoImplicit false
set_option autoImplicit false

namespace ChapterAssembly

namespace Xml

variable {s t a : Text} {ms ns : List Node} {c : Char}

/-! ### Blank characters -/

/-- A text without the blank characters of XML at its two ends. -/
def trim (t : Text) : Text := trimEnd (trimStart t)

/-- A text has no blank character of XML at either end. -/
structure IsTight (t : Text) : Prop where
  start : ∀ c ∈ t.head?, isSpace c = false
  stop : ∀ c ∈ t.getLast?, isSpace c = false

theorem trimStart_eq_self_iff : trimStart t = t ↔ ∀ c ∈ t.head?, isSpace c = false := by
  cases t with
  | nil => simp [trimStart]
  | cons c t => simp [trimStart, List.dropWhile_eq_self_iff]

theorem trimEnd_eq_self_iff : trimEnd t = t ↔ ∀ c ∈ t.getLast?, isSpace c = false := by
  rw [trimEnd, ← List.reverse_inj, List.reverse_reverse, trimStart_eq_self_iff,
    List.head?_reverse]

theorem IsTight.trim_eq (h : IsTight t) : trim t = t := by
  rw [trim, trimStart_eq_self_iff.2 h.start, trimEnd_eq_self_iff.2 h.stop]

theorem isSpace_of_head?_trimStart (h : (trimStart t).head? = some c) : isSpace c = false := by
  have := List.head?_dropWhile_not isSpace t
  rw [show t.dropWhile isSpace = trimStart t from rfl, h] at this
  exact this

/-- What is trimmed is tight. -/
theorem isTight_trim (t : Text) : IsTight (trim t) where
  start c hc := by
    obtain ⟨blanks, hblanks⟩ : trim t <+: trimStart t := by
      rw [trim, trimEnd, ← List.reverse_suffix, List.reverse_reverse]
      exact List.dropWhile_suffix _
    refine isSpace_of_head?_trimStart (t := t) ?_
    rw [← hblanks, List.head?_append, hc]
    rfl
  stop c hc := by
    rw [trim, trimEnd, List.getLast?_reverse] at hc
    exact isSpace_of_head?_trimStart hc

theorem trim_eq_self_iff : trim t = t ↔ IsTight t :=
  ⟨fun h => h ▸ isTight_trim t, IsTight.trim_eq⟩

instance (t : Text) : Decidable (IsTight t) := decidable_of_iff _ trim_eq_self_iff

@[simp] theorem trim_trim (t : Text) : trim (trim t) = trim t := (isTight_trim t).trim_eq

/-! ### Escaped text -/

/-- Something that is put in place of characters, but not of blank ones, and does not start with
one. -/
theorem dropWhile_flatMap {f : Char → Text} (hspace : ∀ c, isSpace c = true → f c = [c])
    (hother : ∀ c, isSpace c = false → ∃ d ds, f c = d :: ds ∧ isSpace d = false) (t : Text) :
    (t.flatMap f).dropWhile isSpace = (t.dropWhile isSpace).flatMap f := by
  induction t with
  | nil => rfl
  | cons c t ih =>
      cases hc : isSpace c with
      | true => simp [hspace c hc, hc, ih]
      | false =>
          obtain ⟨d, ds, hf, hd⟩ := hother c hc
          simp [hf, hc, hd]

theorem escapeChar_of_isSpace (h : isSpace c = true) : escapeChar c = [c] := by
  simp only [isSpace, Bool.or_eq_true, beq_iff_eq] at h
  rcases h with ((rfl | rfl) | rfl) | rfl <;> rfl

/-- What stands for a character that is not blank has no blank character at its ends. -/
theorem isTight_escapeChar (h : isSpace c = false) :
    escapeChar c ≠ [] ∧ IsTight (escapeChar c) := by
  unfold escapeChar
  split
  · exact ⟨by simp, by simp; rfl, by simp; rfl⟩
  · split
    · exact ⟨by simp, by simp; rfl, by simp; rfl⟩
    · split
      · exact ⟨by simp, by simp; rfl, by simp; rfl⟩
      · exact ⟨by simp, by simpa using h, by simpa using h⟩

theorem trimStart_escape (t : Text) : trimStart (escape t) = escape (trimStart t) := by
  refine dropWhile_flatMap (fun c => escapeChar_of_isSpace) (fun c hc => ?_) t
  obtain ⟨hne, htight⟩ := isTight_escapeChar hc
  obtain ⟨d, ds, hd⟩ := List.exists_cons_of_ne_nil hne
  exact ⟨d, ds, hd, htight.start d (by simp [hd])⟩

theorem trimEnd_escape (t : Text) : trimEnd (escape t) = escape (trimEnd t) := by
  have hreverse : ∀ u : Text, (escape u).reverse = u.reverse.flatMap fun c => (escapeChar c).reverse :=
    fun u => List.reverse_flatMap
  rw [trimEnd, trimStart, ← List.reverse_inj, List.reverse_reverse, hreverse, hreverse, trimEnd,
    List.reverse_reverse]
  refine dropWhile_flatMap (fun c hc => ?_) (fun c hc => ?_) t.reverse
  · rw [escapeChar_of_isSpace hc]
    rfl
  · obtain ⟨hne, htight⟩ := isTight_escapeChar hc
    obtain ⟨d, ds, hd⟩ := List.exists_cons_of_ne_nil (List.reverse_ne_nil_iff.2 hne)
    exact ⟨d, ds, hd, htight.stop d (by rw [← List.head?_reverse, hd]; rfl)⟩

/-- **Escaping neither makes nor hides blank characters** at the ends of a text. -/
theorem trim_escape (t : Text) : trim (escape t) = escape (trim t) := by
  rw [trim, trimStart_escape, trimEnd_escape, trim]

theorem escape_eq_nil_iff : escape t = [] ↔ t = [] := by
  cases t with
  | nil => simp [escape]
  | cons c t =>
      have : escapeChar c ≠ [] := by
        unfold escapeChar
        (repeat' split) <;> simp
      simp [escape, this]

/-- No markup is left in escaped text. -/
theorem ne_of_mem_escape (h : c ∈ escape t) : c ≠ '<' := by
  obtain ⟨d, -, hd⟩ := List.mem_flatMap.1 h
  rintro rfl
  unfold escapeChar at hd
  split at hd
  · revert hd; decide
  · split at hd
    · revert hd; decide
    · split at hd
      · revert hd; decide
      · next hne _ _ => exact hne (List.mem_singleton.1 hd).symm

/-! ### Runs -/

/-- What escaped text is read as; blank text is written but not read. -/
def textNodes (t : Text) : List Node := if t = [] then [] else [.raw (escape t)]

/-- **An element of escaped text has that text, but for the blank characters at its ends.** -/
theorem text?_escape (name tag t : Text) :
    Element.text? ⟨name, tag, textNodes t⟩ = some (trim t) := by
  unfold textNodes
  split
  · next h => subst h; rfl
  · next hne =>
      have htrim : trimEnd (trimStart (escape t)) = escape (trim t) := trim_escape t
      by_cases hblank : trimStart (escape t) = []
      · have ht : trim t = [] := by
          rw [hblank] at htrim
          exact escape_eq_nil_iff.1 htrim.symm
        simp [Element.text?, Element.items?, items?, runItems?, startRun, hblank, ht]
      · simp [Element.text?, Element.items?, items?, runItems?, startRun, hblank, runText?, htrim,
          unescape?_escape]

/-- Elements are read one after the other, with nothing between them. -/
theorem items?_elements (es : List Element) :
    items? [] (es.map Element.node) = some (es.map .element) := by
  induction es with
  | nil => rfl
  | cons e es ih => simp [Element.node, items?, runItems?, startRun, ih]

/-! ### Content -/

/-- An element with more content at its end. -/
def Element.append (e : Element) (ns : List Node) : Element := { e with content := e.content ++ ns }

/-- **A text stands for some content**, wherever it is put in front of a tag. -/
def StandsFor (t : Text) (ns : List Node) : Prop :=
  ∀ (e : Element) (es : List Element) (rest : Text),
    rootOf? (e :: es) (tokens (t ++ '<' :: rest)) =
      rootOf? (e.append ns :: es) (tokens ('<' :: rest))

theorem standsFor_nil : StandsFor [] [] := fun e es rest => by simp [Element.append]

/-- **Escaped text** stands for character data. -/
theorem standsFor_escape (t : Text) : StandsFor (escape t) (textNodes t) := by
  unfold textNodes
  split
  · next h => subst h; exact standsFor_nil
  · next hne =>
      intro e es rest
      rw [tokens_raw rest (fun h => hne (escape_eq_nil_iff.1 h)) fun c hc => ne_of_mem_escape hc]
      rfl

/-- A name that elements are written with. -/
structure IsName (name : Text) : Prop where
  ne_nil : name ≠ []
  chars : ∀ c ∈ name, isNameChar c = true

/-- **An element without content.** -/
theorem IsName.standsFor_empty (h : IsName a) : StandsFor ('<' :: (a ++ ['/', '>']))
    [.element a [] []] := by
  intro e es rest
  rw [List.cons_append, List.append_assoc, List.cons_append, List.cons_append, List.nil_append,
    tokens_empty _ h.ne_nil h.chars]
  rfl

/-- **An element around some content.** -/
theorem StandsFor.element (h : StandsFor t ns) (ha : IsName a) :
    StandsFor ('<' :: (a ++ '>' :: (t ++ '<' :: '/' :: (a ++ ['>'])))) [.element a [] ns] := by
  intro e es rest
  have htext : '<' :: (a ++ '>' :: (t ++ '<' :: '/' :: (a ++ ['>']))) ++ '<' :: rest =
      '<' :: (a ++ '>' :: (t ++ '<' :: ('/' :: (a ++ '>' :: '<' :: rest)))) := by simp
  rw [htext, tokens_opening _ ha.ne_nil ha.chars, rootOf?_open, h, tokens_closing _ ha.chars]
  exact rootOf?_close ⟨a, [], ns⟩ e es _

/-- **One content after the other**, of which the second starts with a tag. -/
theorem StandsFor.append (hs : StandsFor s ms) (ht : StandsFor t ns)
    (htag : t = [] ∨ t.head? = some '<') : StandsFor (s ++ t) (ms ++ ns) := by
  intro e es rest
  have hhead : ∃ r, t ++ '<' :: rest = '<' :: r := by
    rcases htag with rfl | htag
    · exact ⟨rest, rfl⟩
    · obtain ⟨r, rfl⟩ := List.head?_eq_some_iff.1 htag
      exact ⟨r ++ '<' :: rest, rfl⟩
  obtain ⟨r, hr⟩ := hhead
  rw [List.append_assoc, hr, hs, ← hr, ht, Element.append, Element.append, List.append_assoc]
  rfl

end Xml

end ChapterAssembly
