/-
**The markers of images.**

What is written for an image is put together by hand, `<img src="` and the address and `">`, and
nothing in the address is escaped.  Resolving an address encodes the quotes and the line feeds in
most of its parts, so that the marker can be read back: its address ends at the first quote, and all
of it stands on one line.  That fails where resolving leaves a quote, in a host and in a path
without segments, and where an address cannot be resolved and is written as it stands on the page.

Main definitions:

* `Html.Node.Shows` — the images of a node that are written;
* `Content.Quoted`, `Content.Broken` — the sources whose addresses have a quote or a line feed;
* `Content.EndsAtQuote`, `Content.Whole` — a marker can be read back, and stands on one line.

Main results:

* `Html.Node.Shows.isInfix` — every image outside of hidden elements is written;
* `Content.quote_mem_absolute_iff`, `Content.newline_mem_absolute_iff` — where addresses have a
  quote or a line feed;
* `Content.marker_of_shows` — **the marker of an image, and when it is well formed**.
-/

import ChapterAssembly.Proofs.Html.Reading
import ChapterAssembly.Proofs.Paragraphs
import ChapterAssembly.Proofs.Url.Parts

set_option relaxedAutoImplicit false
set_option autoImplicit false

namespace ChapterAssembly

/-! ### The images of a fragment -/

namespace Html.Node

/-- **The images of a node that are written**: those outside of hidden elements. -/
inductive Shows (e : Element) : Node → Prop where
  | image {children : List Node} (himage : e.name = "img") : Shows e (.element e children)
  | inside {outer : Element} {children : List Node} {n : Node}
      (hhidden : Content.hiddenTags.contains outer.name = false) (hn : n ∈ children)
      (h : Shows e n) : Shows e (.element outer children)

variable {e : Element} {n : Node} {ns : List Node}

/-- The text of a node stands in the text of all of them. -/
theorem flattenNode_isInfix (base : Url) (hn : n ∈ ns) :
    Content.flattenNode base n <:+: Content.flatten base ns := by
  induction ns with
  | nil => cases hn
  | cons m ns ih =>
      rw [Content.flatten]
      rcases List.mem_cons.1 hn with rfl | hn
      · exact (List.prefix_append _ _).isInfix
      · exact (ih hn).trans (List.suffix_append _ _).isInfix

/-- **Every image outside of hidden elements is written.** -/
theorem Shows.isInfix (base : Url) (h : n.Shows e) (hr : n.Regular) :
    Content.imageText base e <:+: Content.flattenNode base n := by
  induction h with
  | image himage =>
      have hvisible : "img" ∉ Content.hiddenTags := by decide
      simp [Content.flattenNode, hvisible, himage]
  | @inside outer children n hhidden hn h ih =>
      cases hr with
      | element himage hchildren =>
          -- no image holds anything, so the element around the image is none
          have hname : outer.name ≠ "img" := fun hname => by
            rw [himage hname] at hn
            cases hn
          have hinside := (ih (hchildren n hn)).trans (flattenNode_isInfix base hn)
          simp only [Content.flattenNode, hhidden, Bool.false_eq_true, if_false, beq_iff_eq, hname]
          exact hinside.trans ⟨_, _, rfl⟩
      | template htemplate hnodes =>
          rw [htemplate] at hhidden
          cases hhidden

end Html.Node

namespace Content

open Html

/-! ### Addresses -/

/-- **The sources whose addresses have a double quote**: in a host, in a path without segments, or
where the source itself is written. -/
inductive Quoted (base : Url) (src : Text) : Prop where
  | host {u : Url} {a : Authority} (hu : Url.resolve (some base) (Text.trim src) = .ok u)
      (ha : u.authority = some a) (h : '"' ∈ a.host.text)
  | rootless {u : Url} {t : Text} (hu : Url.resolve (some base) (Text.trim src) = .ok u)
      (ht : u.path = .rootless t) (h : '"' ∈ t)
  | unresolved {err : UrlError} (hu : Url.resolve (some base) (Text.trim src) = .error err)
      (h : '"' ∈ Text.trim src)

/-- **The sources whose addresses have a line feed**: those that are written themselves. -/
inductive Broken (base : Url) (src : Text) : Prop where
  | unresolved {err : UrlError} (hu : Url.resolve (some base) (Text.trim src) = .error err)
      (h : '\n' ∈ Text.trim src)

section

variable {base : Url} {src address : Text} {e : Element}

/-- A source that can be resolved is written as the URL. -/
theorem absolute_of_ok (hsrc : Text.trim src ≠ []) {u : Url}
    (hu : Url.resolve (some base) (Text.trim src) = .ok u) : Url.absolute base src = u.text := by
  simp [Url.absolute, hsrc, hu]

/-- Every other one is written as it is. -/
theorem absolute_of_error (hsrc : Text.trim src ≠ []) {err : UrlError}
    (hu : Url.resolve (some base) (Text.trim src) = .error err) :
    Url.absolute base src = Text.trim src := by
  simp [Url.absolute, hsrc, hu]

/-- What is resolved against a URL is encoded. -/
theorem encoded_of_resolve (hb : base.Built) {u : Url}
    (hu : Url.resolve (some base) src = .ok u) : u.Encoded :=
  (Url.Built.resolve hb hu).encoded

/-- **Which addresses have a double quote.** -/
theorem quote_mem_absolute_iff (hb : base.Built) (hsrc : Text.trim src ≠ []) :
    '"' ∈ Url.absolute base src ↔ Quoted base src := by
  cases hu : Url.resolve (some base) (Text.trim src) with
  | ok u =>
      rw [absolute_of_ok hsrc hu, Url.quote_mem_text_iff (encoded_of_resolve hb hu)]
      constructor
      · rintro (⟨a, ha, h⟩ | ⟨t, ht, h⟩)
        · exact .host hu ha h
        · exact .rootless hu ht h
      · rintro (⟨hu', ha, h⟩ | ⟨hu', ht, h⟩ | ⟨hu', -⟩)
        · cases hu.symm.trans hu'
          exact .inl ⟨_, ha, h⟩
        · cases hu.symm.trans hu'
          exact .inr ⟨_, ht, h⟩
        · cases hu.symm.trans hu'
  | error err =>
      rw [absolute_of_error hsrc hu]
      constructor
      · exact .unresolved hu
      · rintro (⟨hu', -, -⟩ | ⟨hu', -, -⟩ | ⟨-, h⟩)
        · cases hu.symm.trans hu'
        · cases hu.symm.trans hu'
        · exact h

/-- **Which addresses have a line feed.** -/
theorem newline_mem_absolute_iff (hb : base.Built) (hsrc : Text.trim src ≠ []) :
    '\n' ∈ Url.absolute base src ↔ Broken base src := by
  cases hu : Url.resolve (some base) (Text.trim src) with
  | ok u =>
      rw [absolute_of_ok hsrc hu]
      constructor
      · exact fun h => absurd h (Url.newline_notMem_text (encoded_of_resolve hb hu))
      · rintro ⟨hu', -⟩
        cases hu.symm.trans hu'
  | error err =>
      rw [absolute_of_error hsrc hu]
      constructor
      · exact .unresolved hu
      · rintro ⟨-, h⟩
        exact h

/-- An image has a source that is not blank, if any. -/
theorem trim_ne_nil_of_imageSource? (h : imageSource? e = some src) : Text.trim src ≠ [] := by
  obtain ⟨name, -, h⟩ := List.exists_of_findSome?_eq_some h
  obtain ⟨v, -, h⟩ := Option.bind_eq_some_iff.1 h
  split at h
  · cases h
  · next hv =>
      obtain rfl := Option.some.inj h
      rw [Text.trim_trim]
      exact fun hnil => hv (by rw [hnil]; rfl)

/-! ### Markers -/

/-- **The address of a marker ends at the first double quote**, whatever follows the marker. -/
def EndsAtQuote (address : Text) : Prop :=
  ∀ rest, (address ++ "\">" ++ rest).takeWhile (· != '"') = address

/-- **The marker stands on one line** of the paragraphs of a fragment. -/
def Whole (base : Url) (html address : Text) : Prop :=
  ∃ l ∈ Text.lines (formatKeepImages base html), imageMarker address <:+: l

theorem endsAtQuote_iff : EndsAtQuote address ↔ '"' ∉ address := by
  constructor
  · intro h hmem
    rw [← h []] at hmem
    have hne := List.mem_takeWhile_imp hmem
    simp at hne
  · intro h rest
    rw [List.append_assoc, List.takeWhile_append_of_pos]
    · exact List.append_nil _
    · rintro c hc
      simpa using fun heq : c = '"' => h (heq ▸ hc)

/-- What stands in a text without a line feed, and neither starts nor ends with a blank character,
stands in one of the lines when its paragraphs are indented. -/
theorem exists_line_indentParagraphs {t l : Text} {c d : Char} (hc : Text.isBlank c = false)
    (hd : Text.isBlank d = false) (hfeed : '\n' ∉ c :: (l ++ [d])) (h : c :: (l ++ [d]) <:+: t) :
    ∃ q ∈ Text.lines (indentParagraphs t), c :: (l ++ [d]) <:+: q := by
  have hlast : (c :: (l ++ [d])).getLast? = some d := by
    rw [← List.cons_append, List.getLast?_concat]
  have hreturn : (c :: (l ++ [d])).getLast? ≠ some '\r' := by
    rw [hlast]
    rintro ⟨⟩
    revert hd
    decide
  obtain ⟨q, hq, hlq⟩ := Text.exists_line_of_isInfix (by simp) hfeed hreturn h
  have htrim := Text.isInfix_trim hc hd hlq
  rw [lines_indentParagraphs]
  refine ⟨indent ++ Text.trim q, List.mem_map_of_mem (List.mem_filter.2 ⟨?_, ?_⟩), ?_⟩
  · exact List.mem_map_of_mem hq
  · rw [Bool.not_eq_true', List.isEmpty_eq_false_iff]
    intro hnil
    rw [hnil] at htrim
    exact absurd (List.infix_nil.1 htrim) (by simp)
  · exact htrim.trans (List.suffix_append _ _).isInfix

/-- A marker from its first character to its last. -/
theorem imageMarker_eq (address : Text) : imageMarker address =
    '<' :: ((['i', 'm', 'g', ' ', 's', 'r', 'c', '=', '"'] ++ address ++ ['"']) ++ ['>']) := by
  have hstart : "<img src=\"".toList = ['<', 'i', 'm', 'g', ' ', 's', 'r', 'c', '=', '"'] := by
    decide
  have hend : "\">".toList = ['"', '>'] := by decide
  unfold imageMarker
  simp only [hstart, hend, List.cons_append, List.append_assoc, List.nil_append]

/-- A marker that is written stands on one line just if there is no line feed in it. -/
theorem whole_iff {html : Text}
    (h : imageMarker address <:+: flatten base (Page.parseFragment html).nodes) :
    Whole base html address ↔ '\n' ∉ address := by
  constructor
  · rintro ⟨l, hl, hinside⟩ hmem
    refine Text.notMem_of_mem_lines hl (hinside.subset ?_)
    simp [imageMarker_eq, hmem]
  · intro hfeed
    rw [imageMarker_eq] at h
    have hline := exists_line_indentParagraphs (by decide) (by decide) (by simpa using hfeed) h
    rwa [← imageMarker_eq] at hline

end

/-- **The marker of an image, and when it is well formed.**  Every image of a fragment outside of
hidden elements that has a source is written as a marker with the address.  There is a double quote
in the address, so that the marker cannot be read back, just if resolving leaves one, and a line
feed, so that the marker is broken into lines, just if the source is written itself. -/
theorem marker_of_shows {base : Url} {html src : Text} {e : Element} (hb : base.Built)
    (he : ∃ n ∈ (Page.parseFragment html).nodes, n.Shows e) (hsrc : imageSource? e = some src) :
    imageMarker (Url.absolute base src) <:+: flatten base (Page.parseFragment html).nodes ∧
    ('"' ∈ Url.absolute base src ↔ Quoted base src) ∧
    ('\n' ∈ Url.absolute base src ↔ Broken base src) ∧
    (EndsAtQuote (Url.absolute base src) ↔ ¬ Quoted base src) ∧
    (Whole base html (Url.absolute base src) ↔ ¬ Broken base src) := by
  have hblank := trim_ne_nil_of_imageSource? hsrc
  have hquote := quote_mem_absolute_iff hb hblank
  have hnewline := newline_mem_absolute_iff hb hblank
  have hwritten : imageMarker (Url.absolute base src) <:+:
      flatten base (Page.parseFragment html).nodes := by
    obtain ⟨n, hn, hshows⟩ := he
    have hinside := hshows.isInfix base (Page.parseFragment_regular html n hn)
    rw [imageText, hsrc] at hinside
    exact hinside.trans (Node.flattenNode_isInfix base hn)
  refine ⟨hwritten, hquote, hnewline, ?_, ?_⟩
  · rw [endsAtQuote_iff, hquote]
  · rw [whole_iff hwritten, hnewline]

/-- The address of a host whose bracket is not closed is written as it stands on the page. -/
example : Broken .blank "http://[a\nb".toList :=
  @Broken.unresolved _ _ .invalidIpv6 rfl (by decide)

/-! ### An image with a double quote in its address -/

/-- A fragment with an image whose source has no segments. -/
def quotePage : Text := "<img src='data:,\"'>".toList

/-- Its image. -/
def quotePage.image : Element :=
  { order := 2, name := "img", attrs := [("src", "data:,\"".toList)] }

set_option maxRecDepth 20000 in
theorem quotePage.shows_image :
    ∃ n ∈ (Page.parseFragment quotePage).nodes, n.Shows quotePage.image := by
  have hnodes : (Page.parseFragment quotePage).nodes =
      [.element { order := 1, name := "html" } [.element quotePage.image []]] := by cbv
  rw [hnodes]
  exact ⟨_, List.mem_singleton_self _, .inside rfl (List.mem_singleton_self _) (.image rfl)⟩

theorem quotePage.resolve_eq : Url.resolve (some .blank) (Text.trim "data:,\"".toList) =
    .ok { scheme := "data".toList, path := .rootless ",\"".toList } := rfl

theorem quotePage.quoted : Quoted .blank "data:,\"".toList :=
  .rootless quotePage.resolve_eq rfl (by decide)

/-- The marker of that image stands on one line, but cannot be read back. -/
theorem marker_of_shows_quote :
    ¬ EndsAtQuote (Url.absolute .blank "data:,\"".toList) ∧
      Whole .blank quotePage (Url.absolute .blank "data:,\"".toList) := by
  have hsrc : imageSource? quotePage.image = some "data:,\"".toList := rfl
  obtain ⟨-, -, -, hends, hwhole⟩ := marker_of_shows Url.built_blank quotePage.shows_image hsrc
  refine ⟨fun h => hends.1 h quotePage.quoted, hwhole.2 ?_⟩
  rintro ⟨hu, -⟩
  cases quotePage.resolve_eq.symm.trans hu

/-- **Not every marker is well formed.** -/
theorem markers_not_wellFormed :
    ¬ ∀ (base : Url) (html src : Text) (e : Element), base.Built →
      (∃ n ∈ (Page.parseFragment html).nodes, n.Shows e) → imageSource? e = some src →
      '"' ∉ Url.absolute base src ∧ '\n' ∉ Url.absolute base src := by
  intro hall
  have hsrc : imageSource? quotePage.image = some "data:,\"".toList := rfl
  refine (hall .blank quotePage _ quotePage.image Url.built_blank quotePage.shows_image hsrc).1 ?_
  rw [quote_mem_absolute_iff Url.built_blank (trim_ne_nil_of_imageSource? hsrc)]
  exact quotePage.quoted

end Content

end ChapterAssembly
