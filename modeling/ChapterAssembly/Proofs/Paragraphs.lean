/-
**The lines of laid out texts.**

Trimming a laid out line takes away what was put in front of its paragraph and nothing else, so
lines that are laid out can be trimmed and indented again.  The lines of the paragraphs of a text
are the indented paragraphs.

Indenting the paragraphs of a text is a normal form.  What it gives depends on what stands on the
lines of the text and not on how they end, and of texts on lines of their own it is what it gives
for each.

Main definitions:

* `Content.Indented` — a text of indented paragraphs, one a line;
* `Content.NormalForm` — a way to lay out the lines of texts that does so once and for all.

Main results:

* `Content.LaidOut.indentLines_trimLines` — **a laid out text that ends with a paragraph is trimmed
  and indented to itself**;
* `Content.pieces_indentParagraphs`, `Content.lines_indentParagraphs` — what stands between the line
  feeds of indented paragraphs;
* `Content.paragraphs_append` — the paragraphs of one text after those of another;
* `Content.indentParagraphs_eq_self_iff` — which texts stay as they are;
* `Content.normalForm_indentParagraphs` — **indenting paragraphs is a normal form**.
-/

import Mathlib.Data.List.Basic
import ChapterAssembly.Proofs.Layout
import ChapterAssembly.Proofs.Text.Cuts

set_option relaxedAutoImplicit false
set_option autoImplicit false

namespace ChapterAssembly

/-! ### Lines that are trimmed and indented again -/

namespace Content

variable {t piece : Text}

/-- **Trimming takes the indent away**, and nothing of a paragraph. -/
theorem Paragraph.trim_indent {p : Text} (h : Paragraph p) : Text.trim (indent ++ p) = p := by
  have hstart : Text.trimStart (indent ++ p) = Text.trimStart p := rfl
  rw [Text.trim, hstart, Text.trimStart_eq_self h.head, Text.trimEnd_eq_self h.last]

/-- What stands between two line feeds of a laid out text. -/
def Laid (piece : Text) : Prop := piece = [] ∨ ∃ p, piece = indent ++ p ∧ Paragraph p

namespace Laid

/-- **What is laid out is trimmed and indented to itself.** -/
theorem indentLine_trim (h : Laid piece) : indentLine (Text.trim piece) = piece := by
  rcases h with rfl | ⟨p, rfl, hp⟩
  · rfl
  · rw [hp.trim_indent, indentLine, if_neg (by simpa using hp.ne_nil)]

theorem getLast?_ne_return (h : Laid piece) : piece.getLast? ≠ some '\r' := by
  rcases h with rfl | ⟨p, rfl, hp⟩
  · simp
  · rw [List.getLast?_append_of_ne_nil _ hp.ne_nil]
    intro hlast
    have hblank := hp.last _ hlast
    revert hblank
    decide

theorem trim_eq_nil_iff (h : Laid piece) : Text.trim piece = [] ↔ piece = [] := by
  rcases h with rfl | ⟨p, rfl, hp⟩
  · simp
  · rw [hp.trim_indent]
    simp [hp.ne_nil]

end Laid

/-- What is trimmed does not end with a carriage return. -/
theorem getLast?_trim_ne_return (t : Text) : (Text.trim t).getLast? ≠ some '\r' := by
  intro hlast
  have hblank := Text.isBlank_of_getLast?_trim hlast
  revert hblank
  decide

namespace LaidOut

theorem lines_eq (h : LaidOut t) (hlast : (Text.pieces t).getLast? ≠ some []) :
    Text.lines t = Text.pieces t :=
  Text.linesOfPieces_eq_self (fun p hp => Laid.getLast?_ne_return (h p hp)) hlast

/-- The lines of a laid out text after they were trimmed. -/
theorem lines_trimLines (h : LaidOut t) (hlast : (Text.pieces t).getLast? ≠ some []) :
    Text.lines (trimLines t) = (Text.pieces t).map Text.trim := by
  rw [trimLines, h.lines_eq hlast]
  refine Text.lines_joinWith ?_ ?_ ?_ ?_
  · rw [ne_eq, List.map_eq_nil_iff]
    exact Text.splitOnChar_ne_nil '\n' t
  · refine List.forall_mem_map.2 fun p hp hfeed => ?_
    exact Text.notMem_of_mem_splitOnChar hp (Text.trim_subset p hfeed)
  · exact List.forall_mem_map.2 fun p _ => getLast?_trim_ne_return p
  · rw [List.getLast?_map]
    intro hnil
    obtain ⟨p, hp, htrim⟩ := Option.map_eq_some_iff.1 hnil
    rw [Laid.trim_eq_nil_iff (h p (List.mem_of_getLast? hp))] at htrim
    exact hlast (htrim ▸ hp)

/-- **A laid out text that ends with a paragraph is trimmed and indented to itself.** -/
theorem indentLines_trimLines (h : LaidOut t) (hlast : (Text.pieces t).getLast? ≠ some []) :
    indentLines (trimLines t) = t := by
  have hsame : ∀ p ∈ Text.pieces t, ((fun l => indentLine (Text.trim l)) ∘ Text.trim) p = id p := by
    intro p hp
    rw [Function.comp_apply, Text.trim_trim, Laid.indentLine_trim (h p hp), id]
  rw [indentLines, h.lines_trimLines hlast, List.map_map, List.map_congr_left hsame, List.map_id,
    Text.joinWith_pieces]

/-- Something stands in it when its lines are trimmed. -/
theorem isBlankText_trimLines (h : LaidOut t) (hlast : (Text.pieces t).getLast? ≠ some []) :
    Text.isBlankText (trimLines t) = false := by
  have hpieces : Text.pieces t ≠ [] := Text.splitOnChar_ne_nil '\n' t
  obtain ⟨q, hq⟩ := Option.isSome_iff_exists.1 (List.getLast?_isSome.2 hpieces)
  have hne : Text.trim q ≠ [] := fun hnil =>
    hlast ((Laid.trim_eq_nil_iff (h q (List.mem_of_getLast? hq))).1 hnil ▸ hq)
  rw [trimLines, h.lines_eq hlast, Text.isBlankText_joinWith, List.all_eq_false]
  refine ⟨Text.trim q, List.mem_map_of_mem (List.mem_of_getLast? hq), fun hblank => hne ?_⟩
  rw [← Text.trim_trim, Text.trim_eq_nil_iff.2 hblank]

end LaidOut

/-! ### The lines of paragraphs -/

/-- Nothing is left of a text just if it has no paragraphs. -/
theorem indentParagraphs_eq_nil_iff : indentParagraphs t = [] ↔ paragraphs t = [] := by
  rw [indentParagraphs]
  cases paragraphs t with
  | nil => simp
  | cons p ps => cases ps <;> simp [indent]

/-- The pieces of an indented text are its paragraphs, unless it has none. -/
theorem pieces_indentParagraphs (h : indentParagraphs t ≠ []) :
    Text.pieces (indentParagraphs t) = (paragraphs t).map (indent ++ ·) := by
  refine Text.splitOnChar_joinWith_of_notMem (fun hnil => h ?_) ?_
  · exact indentParagraphs_eq_nil_iff.2 (List.map_eq_nil_iff.1 hnil)
  · refine List.forall_mem_map.2 fun p hp hfeed => ?_
    obtain ⟨l, hl, rfl⟩ := List.mem_map.1 (List.mem_filter.1 hp).1
    rcases List.mem_append.1 hfeed with hfeed | hfeed
    · exact absurd hfeed (by decide)
    · exact Text.notMem_of_mem_lines hl (Text.trim_subset l hfeed)

/-- **The lines of indented paragraphs are the indented paragraphs.** -/
theorem lines_indentParagraphs (t : Text) :
    Text.lines (indentParagraphs t) = (paragraphs t).map (indent ++ ·) := by
  by_cases hnil : indentParagraphs t = []
  · rw [hnil, indentParagraphs_eq_nil_iff.1 hnil]
    rfl
  · have hpieces := pieces_indentParagraphs hnil
    rw [LaidOut.lines_eq (laidOut_indentParagraphs t), hpieces]
    rw [hpieces, List.getLast?_map]
    intro hlast
    obtain ⟨p, -, hp⟩ := Option.map_eq_some_iff.1 hlast
    simp [indent] at hp

/-! ### The paragraphs of a text -/

theorem paragraph_of_mem_paragraphs {p : Text} (h : p ∈ paragraphs t) : Paragraph p := by
  obtain ⟨hline, hne⟩ := List.mem_filter.1 h
  obtain ⟨l, -, rfl⟩ := List.mem_map.1 hline
  exact paragraph_trim (by simpa using hne)

/-- The paragraphs of a text are its lines on which something stands, trimmed. -/
theorem paragraphs_eq_map_trim (t : Text) :
    paragraphs t = ((Text.lines t).filter fun l => !Text.isBlankText l).map Text.trim := by
  have hblank : (fun l : Text => !l.isEmpty) ∘ Text.trim = fun l => !Text.isBlankText l :=
    funext fun l => congrArg not (Text.isEmpty_trim l)
  rw [paragraphs, List.filter_map, hblank]

/-- Where lines are trimmed and nothing is left of blank ones, it does not count how they end. -/
theorem filter_trim_linesOfPieces (ps : List Text) :
    ((Text.linesOfPieces ps).map Text.trim).filter (fun l => !l.isEmpty) =
      (ps.map Text.trim).filter fun l => !l.isEmpty := by
  induction ps with
  | nil => rfl
  | cons p ps ih =>
      cases ps with
      | nil =>
          -- the last piece is a line, unless nothing stands in it
          cases p with
          | nil => rfl
          | cons c p => rfl
      | cons q qs =>
          rw [Text.linesOfPieces, List.map_cons, Text.trim_dropReturn, List.map_cons,
            List.filter_cons, List.filter_cons, ih]

/-- **The paragraphs of a text are what is left of its pieces.** -/
theorem paragraphs_eq_filter_pieces (t : Text) :
    paragraphs t = ((Text.pieces t).map Text.trim).filter fun l => !l.isEmpty :=
  filter_trim_linesOfPieces (Text.pieces t)

/-- **The paragraphs of a text and those of another on the lines after it.** -/
theorem paragraphs_append (a b : Text) :
    paragraphs (a ++ '\n' :: b) = paragraphs a ++ paragraphs b := by
  simp only [paragraphs_eq_filter_pieces]
  rw [Text.pieces, Text.splitOnChar_append_cons, List.map_append, List.filter_append]
  rfl

/-! ### A normal form -/

/-- Between the line feeds of a text stand indented paragraphs, if anything stands in it. -/
def Indented (t : Text) : Prop :=
  t = [] ∨ ∀ piece ∈ Text.pieces t, ∃ p, piece = indent ++ p ∧ Paragraph p

theorem indented_indentParagraphs (t : Text) : Indented (indentParagraphs t) := by
  by_cases hnil : indentParagraphs t = []
  · exact .inl hnil
  · refine .inr fun piece hpiece => ?_
    rw [pieces_indentParagraphs hnil] at hpiece
    obtain ⟨p, hp, rfl⟩ := List.mem_map.1 hpiece
    exact ⟨p, rfl, paragraph_of_mem_paragraphs hp⟩

/-- **The texts that stay as they are** are those of indented paragraphs. -/
theorem indentParagraphs_eq_self_iff : indentParagraphs t = t ↔ Indented t := by
  constructor
  · intro h
    exact h ▸ indented_indentParagraphs t
  · rintro (rfl | h)
    · rfl
    · have hsame : ∀ piece ∈ Text.pieces t, ((indent ++ ·) ∘ Text.trim) piece = id piece := by
        intro piece hpiece
        obtain ⟨p, rfl, hp⟩ := h piece hpiece
        exact congrArg (indent ++ ·) hp.trim_indent
      have hall : ∀ l ∈ (Text.pieces t).map Text.trim, (!l.isEmpty) = true := by
        refine List.forall_mem_map.2 fun piece hpiece => ?_
        obtain ⟨p, rfl, hp⟩ := h piece hpiece
        rw [hp.trim_indent]
        simpa using hp.ne_nil
      rw [indentParagraphs, paragraphs_eq_filter_pieces, List.filter_eq_self.2 hall, List.map_map,
        List.map_congr_left hsame, List.map_id, Text.joinWith_pieces]

/-- What is left of two texts, one on the lines after the other, stands on lines of its own. -/
theorem indentParagraphs_append (a b : Text) :
    indentParagraphs (a ++ '\n' :: b) =
      if indentParagraphs a = [] then indentParagraphs b
      else if indentParagraphs b = [] then indentParagraphs a
      else indentParagraphs a ++ '\n' :: indentParagraphs b := by
  simp only [indentParagraphs_eq_nil_iff]
  split
  · next ha => rw [indentParagraphs, paragraphs_append, ha, List.nil_append, ← indentParagraphs]
  · next ha =>
      split
      · next hb =>
          rw [indentParagraphs, paragraphs_append, hb, List.append_nil, ← indentParagraphs]
      · next hb =>
          rw [indentParagraphs, paragraphs_append, List.map_append,
            Text.joinWith_append (by simpa using ha) (by simpa using hb), List.append_assoc,
            List.singleton_append, ← indentParagraphs, ← indentParagraphs]

/-- **A way to lay out the lines of texts that does so once and for all**, and for texts on lines of
their own one by one. -/
structure NormalForm (f : Text → Text) : Prop where
  /-- The lines of what it gives, without the indent, are those of the text on which something
  stands, trimmed. -/
  lines : ∀ t, (Text.lines (f t)).map (Text.afterPrefix? indent) =
    ((Text.lines t).filter fun l => !Text.isBlankText l).map fun l => some (Text.trim l)
  idem : ∀ t, f (f t) = f t
  fixed : ∀ t, f t = t ↔ Indented t
  append : ∀ a b, f (a ++ '\n' :: b) =
    if f a = [] then f b else if f b = [] then f a else f a ++ '\n' :: f b

/-- **Indenting paragraphs is a normal form.** -/
theorem normalForm_indentParagraphs : NormalForm indentParagraphs where
  lines t := by
    have hafter : ∀ p, (Text.afterPrefix? indent ∘ (indent ++ ·)) p = some p :=
      Text.afterPrefix?_append indent
    rw [lines_indentParagraphs, List.map_map, List.map_congr_left fun p _ => hafter p,
      paragraphs_eq_map_trim, List.map_map]
    rfl
  idem t := indentParagraphs_eq_self_iff.2 (indented_indentParagraphs t)
  fixed _ := indentParagraphs_eq_self_iff
  append := indentParagraphs_append

/-- Line ends of both kinds, a blank line, a carriage return at the end and an indent of its own. -/
example : indentParagraphs "a \r\n \n\u3000b\r" = "\u3000\u3000a\n\u3000\u3000b" := by decide

end Content

end ChapterAssembly
