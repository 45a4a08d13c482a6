/-
**Taking markup off keeps the text.**

The paragraphs of a fragment hold all that is written in it, and nothing else.  What is written is
read off the tree: the characters of its texts, with a marker for every image that has an address,
and with the borders of blocks between them.  Only blank characters are lost or put in, and a line
ends exactly where a line feed or a border stands.

Main definitions:

* `Html.Sign` — a character that is written, or the border of a block;
* `Html.Node.signs` — what is written in a node;
* `Html.OnOneLine` — two characters that can be seen have neither a line feed nor a border between
  them;
* `Content.Renders` — a text renders what is written.

Main results:

* `Html.onOneLine_iff` — whether two characters are on one line can be read off what is seen;
* `Html.Node.Regular.flattenNode_eq` — flattening a node puts down its signs;
* `Content.formatKeepImages_renders` — **the paragraphs of a fragment render it**.
-/

import ChapterAssembly.Content.Format
import ChapterAssembly.Proofs.Html.Reading
import ChapterAssembly.Proofs.Text.Lines

set_option relaxedAutoImplicit false
set_option autoImplicit false

namespace ChapterAssembly

namespace Html

/-! ### What is written in a node -/

/-- A character that is written, or the start or end of a block. -/
inductive Sign where
  | glyph (c : Char)
  | border
deriving Repr, DecidableEq

namespace Element

/-- The texts below an element of this name do not count. -/
def isHidden (e : Element) : Bool := ["script", "style", "noscript", "template"].contains e.name

/-- The address that an image gives: the first of its sources that is not blank. -/
def firstSource? (e : Element) : Option Text :=
  (["data-original", "data-src", "src"].filterMap e.attr?).find? fun v => !Text.isBlankText v

/-- What stands for an element itself: an image with an address has a marker. -/
def marker (base : Url) (e : Element) : Text :=
  if e.name = "img" then
    match e.firstSource? with
    | some v => "<img src=\"" ++ Url.absolute base v ++ "\">"
    | none => []
  else []

/-- The border of an element: blocks have one. -/
def border (e : Element) : List Sign := if Content.blockTags.contains e.name then [.border] else []

end Element

namespace Node

mutual

/-- What is written in a node: its texts in document order, with markers and borders. -/
def signs (base : Url) : Node → List Sign
  | .text t => t.map .glyph
  | .comment _ => []
  | .element e children =>
    if e.isHidden then []
    else e.border ++ (e.marker base).map .glyph ++ signsOf base children ++ e.border
  | .fragment nodes => signsOf base nodes

/-- What is written in some nodes. -/
def signsOf (base : Url) : List Node → List Sign
  | [] => []
  | n :: ns => n.signs base ++ signsOf base ns

end

end Node

/-- A paragraph, and a text behind it. -/
example : Node.signsOf .blank [.element { order := 0, name := "p" } [.text ['a']], .text ['b']] =
    [.border, .glyph 'a', .border, .glyph 'b'] := rfl

/-! ### Characters that can be seen -/

namespace Sign

/-- The character that is written. -/
def char? : Sign → Option Char
  | .glyph c => some c
  | .border => none

/-- The sign is a character that can be seen. -/
def isVisible : Sign → Bool
  | .glyph c => !Text.isBlank c
  | .border => false

/-- The sign ends a line. -/
def endsLine : Sign → Bool
  | .glyph c => c == '\n'
  | .border => true

/-- The character that flattening puts down for a sign. -/
def shown : Sign → Char
  | .glyph c => c
  | .border => '\n'

end Sign

/-- Of the characters that can be seen, those with the numbers `i` and `j` have neither a line feed
nor a border between them. -/
def OnOneLine (ss : List Sign) (i j : Nat) : Prop :=
  ∃ (a b c : List Sign) (x y : Sign), ss = a ++ x :: (b ++ y :: c) ∧
    x.isVisible = true ∧ y.isVisible = true ∧
    a.countP Sign.isVisible = i ∧ i + 1 + b.countP Sign.isVisible = j ∧
    ∀ s ∈ b, s.endsLine = false

/-- What can be seen of some signs. -/
def seen (ended : Bool) (ss : List Sign) : List (Bool × Char) :=
  Text.seen ended (ss.map Sign.shown)

section

variable {ended : Bool} {s x y : Sign} {ss a b c : List Sign} {i j : Nat}

theorem seen_cons (ended : Bool) (s : Sign) (ss : List Sign) :
    seen ended (s :: ss) =
      if s.endsLine then seen true ss
      else if s.isVisible then (ended, s.shown) :: seen false ss
      else seen ended ss := by
  cases s with
  | border => rfl
  | glyph c =>
      simp only [seen, List.map_cons, Text.seen, Sign.shown, Sign.endsLine, Sign.isVisible,
        beq_iff_eq]
      by_cases hc : Text.isBlank c = true
      · simp [hc]
      · simp [hc]

/-- A sign that ends a line cannot be seen. -/
theorem Sign.isVisible_eq_false (h : s.endsLine = true) : s.isVisible = false := by
  cases s with
  | border => rfl
  | glyph c =>
      obtain rfl : c = '\n' := by simpa [Sign.endsLine] using h
      rfl

theorem seen_cons_of_isVisible (hx : x.isVisible = true) (ended : Bool) (ss : List Sign) :
    seen ended (x :: ss) = (ended, x.shown) :: seen false ss := by
  have hends : x.endsLine ≠ true := by
    intro hends
    simp [Sign.isVisible_eq_false hends] at hx
  rw [seen_cons, if_neg hends, if_pos hx]

theorem length_seen (ended : Bool) (ss : List Sign) :
    (seen ended ss).length = ss.countP Sign.isVisible := by
  induction ss generalizing ended with
  | nil => rfl
  | cons s ss ih =>
      rw [seen_cons, List.countP_cons]
      split
      · next hs => rw [ih, Sign.isVisible_eq_false hs, if_neg (by simp), Nat.add_zero]
      · split
        · rw [List.length_cons, ih]
        · rw [ih, Nat.add_zero]

/-- What is seen behind a character that can be seen, where no line has ended yet. -/
theorem drop_seen (hx : x.isVisible = true) (ended : Bool) (a c : List Sign) :
    (seen ended (a ++ x :: c)).drop (a.countP Sign.isVisible + 1) = seen false c := by
  induction a generalizing ended with
  | nil => simp [seen_cons_of_isVisible hx]
  | cons s a ih =>
      rw [List.cons_append]
      by_cases hs : s.endsLine = true
      · rw [seen_cons, if_pos hs,
          List.countP_cons_of_neg (by simp [Sign.isVisible_eq_false hs]), ih]
      by_cases hv : s.isVisible = true
      · rw [seen_cons_of_isVisible hv, List.countP_cons_of_pos hv, List.drop_succ_cons, ih]
      · rw [seen_cons, if_neg hs, if_neg hv, List.countP_cons_of_neg hv, ih]

/-- **No line ends before the next character that can be seen**, exactly if no sign in between ends
one. -/
theorem forall_seen_iff (hy : y.isVisible = true) (ended : Bool) (b c : List Sign) :
    (∀ p ∈ (seen ended (b ++ y :: c)).take (b.countP Sign.isVisible + 1), p.1 = false) ↔
      ended = false ∧ ∀ s ∈ b, s.endsLine = false := by
  induction b generalizing ended with
  | nil => simp [seen_cons_of_isVisible hy]
  | cons s b ih =>
      rw [List.cons_append, List.forall_mem_cons]
      by_cases hs : s.endsLine = true
      · rw [seen_cons, if_pos hs,
          List.countP_cons_of_neg (by simp [Sign.isVisible_eq_false hs]), ih]
        simp [hs]
      by_cases hv : s.isVisible = true
      · rw [seen_cons_of_isVisible hv, List.countP_cons_of_pos hv, List.take_succ_cons,
          List.forall_mem_cons, ih]
        simp [hs]
      · rw [seen_cons, if_neg hs, if_neg hv, List.countP_cons_of_neg hv, ih]
        simp [hs]

/-- The place of a member with a given number. -/
theorem exists_append_of_lt_countP {p : Sign → Bool} (h : i < ss.countP p) :
    ∃ a x c, ss = a ++ x :: c ∧ p x = true ∧ a.countP p = i := by
  induction ss generalizing i with
  | nil => simp at h
  | cons s ss ih =>
      by_cases hs : p s = true
      · cases i with
        | zero => exact ⟨[], s, ss, rfl, hs, rfl⟩
        | succ i =>
            rw [List.countP_cons_of_pos hs] at h
            obtain ⟨a, x, c, rfl, hx, hi⟩ := ih (Nat.lt_of_succ_lt_succ h)
            exact ⟨s :: a, x, c, rfl, hx, by rw [List.countP_cons_of_pos hs, hi]⟩
      · rw [List.countP_cons_of_neg hs] at h
        obtain ⟨a, x, c, rfl, hx, hi⟩ := ih h
        exact ⟨s :: a, x, c, rfl, hx, by rw [List.countP_cons_of_neg hs, hi]⟩

/-- **Whether two characters are on one line can be read off what is seen.** -/
theorem onOneLine_iff (ended : Bool) : OnOneLine ss i j ↔ i < j ∧ j < (seen ended ss).length ∧
    ∀ p ∈ ((seen ended ss).drop (i + 1)).take (j - i), p.1 = false := by
  constructor
  · rintro ⟨a, b, c, x, y, rfl, hx, hy, rfl, rfl, hb⟩
    refine ⟨by omega, ?_, ?_⟩
    · rw [length_seen]
      simp only [List.countP_append, List.countP_cons_of_pos hx, List.countP_cons_of_pos hy]
      omega
    · have hcount : a.countP Sign.isVisible + 1 + b.countP Sign.isVisible -
          a.countP Sign.isVisible = b.countP Sign.isVisible + 1 := by omega
      rw [drop_seen hx, hcount]
      exact (forall_seen_iff hy false b c).2 ⟨rfl, hb⟩
  · rintro ⟨hij, hj, hall⟩
    rw [length_seen] at hj
    obtain ⟨a, x, r, rfl, hx, rfl⟩ := exists_append_of_lt_countP (hij.trans hj)
    rw [List.countP_append, List.countP_cons_of_pos hx] at hj
    have hr : j - (a.countP Sign.isVisible + 1) < r.countP Sign.isVisible := by omega
    obtain ⟨b, y, c, rfl, hy, hb⟩ := exists_append_of_lt_countP hr
    have hcount : j - a.countP Sign.isVisible = b.countP Sign.isVisible + 1 := by omega
    rw [drop_seen hx, hcount] at hall
    exact ⟨a, b, c, x, y, rfl, hx, hy, rfl, by omega, ((forall_seen_iff hy false b c).1 hall).2⟩

end

/-! ### Flattening -/

namespace Node

variable {base : Url} {n : Node} {ns : List Node}

/-- Looking for the first good value goes through the values one by one. -/
theorem findSome?_trim (values : String → Option Text) (names : List String) :
    (names.findSome? fun name => (values name).bind fun v =>
      if (Text.trim v).isEmpty then none else some (Text.trim v)) =
      ((names.filterMap values).find? fun v => !Text.isBlankText v).map Text.trim := by
  induction names with
  | nil => rfl
  | cons name names ih =>
      rw [List.findSome?_cons, List.filterMap_cons]
      cases values name with
      | none => exact ih
      | some v =>
          simp only [Option.bind_some, Text.isEmpty_trim, List.find?_cons] at ih ⊢
          cases Text.isBlankText v with
          | true => exact ih
          | false => rfl

/-- What an image leaves in the text is its marker. -/
theorem imageText_eq {e : Element} (himage : e.name = "img") :
    Content.imageText base e = e.marker base := by
  have hsource : Content.imageSource? e = e.firstSource?.map Text.trim :=
    findSome?_trim e.attr? ["data-original", "data-src", "src"]
  rw [Content.imageText, Element.marker, if_pos himage, hsource]
  cases e.firstSource? with
  | none => rfl
  | some v =>
      have habsolute : Url.absolute base (Text.trim v) = Url.absolute base v := by
        simp only [Url.absolute, Text.trim_trim]
      simp only [Option.map_some, habsolute]
      rfl

theorem flatten_eq (h : ∀ n ∈ ns, Content.flattenNode base n = (n.signs base).map Sign.shown) :
    Content.flatten base ns = (signsOf base ns).map Sign.shown := by
  induction ns with
  | nil => rfl
  | cons n ns ih =>
      obtain ⟨hn, hns⟩ := List.forall_mem_cons.1 h
      rw [Content.flatten, signsOf, List.map_append, hn, ih hns]

/-- **Flattening a node puts down its signs**, with line feeds for borders. -/
theorem Regular.flattenNode_eq (h : n.Regular) :
    Content.flattenNode base n = (n.signs base).map Sign.shown := by
  induction h with
  | text t =>
      rw [signs, List.map_map]
      exact (List.map_id t).symm
  | comment t => rfl
  | @element e children himage hchildren ih =>
      rw [Content.flattenNode, signs]
      by_cases hhidden : e.isHidden = true
      · rw [if_pos hhidden]
        exact if_pos hhidden
      rw [if_neg hhidden]
      refine (if_neg hhidden).trans ?_
      by_cases hname : e.name = "img"
      · have hborder : e.border = [] := by
          rw [Element.border, hname]
          rfl
        rw [if_pos (by simp [hname]), imageText_eq hname, himage hname, hborder]
        simp [signsOf, Sign.shown, Function.comp_def]
      · have hmarker : e.marker base = [] := if_neg hname
        have hbreak : Content.blockBreak e = e.border.map Sign.shown := by
          rw [Content.blockBreak, Element.border]
          split
          · rfl
          · rfl
        rw [if_neg (by simp [hname]), flatten_eq ih, hmarker, hbreak]
        simp
  | @template e nodes htemplate hnodes ih =>
      have hhidden : e.isHidden = true := by
        rw [Element.isHidden, htemplate]
        rfl
      rw [Content.flattenNode, signs, if_pos hhidden]
      exact if_pos hhidden

end Node

end Html

namespace Content

open Html

/-- **A text renders what is written**: without blank characters both are the same, and on one line
of the text are exactly those characters that have neither a line feed nor a border between them. -/
structure Renders (ss : List Sign) (t : Text) : Prop where
  chars : t.filter (fun c => !Text.isBlank c) =
    (ss.filterMap Sign.char?).filter fun c => !Text.isBlank c
  oneLine : ∀ i j, OnOneLine (t.map .glyph) i j ↔ OnOneLine ss i j

/-- Without blank characters, what flattening puts down is what is written. -/
theorem filter_shown (ss : List Sign) : (ss.map Sign.shown).filter (fun c => !Text.isBlank c) =
    (ss.filterMap Sign.char?).filter fun c => !Text.isBlank c := by
  induction ss with
  | nil => rfl
  | cons s ss ih =>
      cases s with
      | border => exact ih
      | glyph c =>
          rw [List.map_cons, List.filterMap_cons]
          simp only [Sign.shown, Sign.char?, List.filter_cons, ih]

theorem renders_of_seen {ss : List Sign} {t : Text} (h : Text.seen true t = seen true ss) :
    Renders ss t where
  chars := by
    rw [← filter_shown, ← Text.map_snd_seen true t, h]
    exact Text.map_snd_seen true _
  oneLine i j := by
    have htext : seen true (t.map .glyph) = seen true ss := by
      rw [← h, seen, List.map_map]
      exact congrArg (Text.seen true) (List.map_id t)
    rw [onOneLine_iff true, onOneLine_iff true, htext]

/-- Nothing can be seen of the indent, of what trimming takes away and of blank lines. -/
theorem seen_paragraphs (ls : List Text) :
    (((ls.map Text.trim).filter fun l => !l.isEmpty).map (indent ++ ·)).flatMap (Text.seen true) =
      ls.flatMap (Text.seen true) := by
  induction ls with
  | nil => rfl
  | cons l ls ih =>
      rw [List.map_cons, List.flatMap_cons, ← Text.seen_trim l]
      cases hl : Text.trim l with
      | nil => exact ih
      | cons c t =>
          rw [List.filter_cons_of_pos rfl, List.map_cons, List.flatMap_cons, ih,
            Text.seen_blank_append (by decide)]

/-- **Laying out paragraphs changes nothing that can be seen.** -/
theorem seen_indentParagraphs (t : Text) :
    Text.seen true (indentParagraphs t) = Text.seen true t := by
  rw [indentParagraphs, Text.seen_joinWith, paragraphs, seen_paragraphs, Text.flatMap_lines]

/-- **The paragraphs of a fragment render what is written in it**, and nothing else. -/
theorem formatKeepImages_renders (base : Url) (html : Text) :
    Renders (Node.signsOf base (Page.parseFragment html).nodes) (formatKeepImages base html) := by
  refine renders_of_seen ?_
  rw [formatKeepImages, seen_indentParagraphs, Node.flatten_eq fun n hn =>
    (Page.parseFragment_regular html n hn).flattenNode_eq]
  rfl

end Content

end ChapterAssembly
