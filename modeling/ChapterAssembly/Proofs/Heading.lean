/-
**Titles that come off the page as HTML.**

The title rule `h1@html` takes the heading of a page as it is written in HTML, and what is written
has references in place of some characters: of `&` and the no-break space in texts, and of `&` in
the addresses of images.  The image at the end of the title is taken out of that, but the
references stay.  So the title and the image come off the page as they are there exactly if no such
character is in them.

Main definitions:

* `Rule.Headed` — the heading of a page is a text with an image behind it;
* `Content.Unaltered` — the title and the image that a page has are those of its heading.

Main results:

* `Html.eq_of_count_flatMap` — a text that has as many semicolons written with references as
  without has no references;
* `Rule.Headed.string_eq` — what the rule finds on a page with such a heading;
* `Content.resolveTitle_heading` — **what becomes of the heading, and when it comes off
  unaltered**;
* `Content.resolveTitle_alters` — a heading that does not.

Mathlib is imported as a whole for the equations by which `cbv` evaluates a page.
-/

import Mathlib
import ChapterAssembly.Proofs.Marker
import ChapterAssembly.Proofs.Rule.Faults

set_option relaxedAutoImplicit false
set_option autoImplicit false

namespace ChapterAssembly

/-! ### Semicolons -/

theorem Text.count_eq_zero_of_isBlankText {t : Text} {c : Char} (hc : isBlank c = false)
    (h : isBlankText t = true) : t.count c = 0 := by
  rw [List.count_eq_zero]
  intro hmem
  have hblank := List.all_eq_true.1 h c hmem
  simp [hc] at hblank

/-- Trimming takes away blank characters only. -/
theorem Text.count_trim {c : Char} (hc : isBlank c = false) (t : Text) :
    (trim t).count c = t.count c := by
  obtain ⟨u, v, hu, hv, ht⟩ := exists_trim t
  have hcount := congrArg (List.count c) ht
  rw [List.count_append, List.count_append, count_eq_zero_of_isBlankText hc hu,
    count_eq_zero_of_isBlankText hc hv] at hcount
  omega

namespace Html

section

variable {f : Char → Text} {t u : Text} {c : Char}

/-- In a text that is written with references, each of them adds a semicolon. -/
theorem count_flatMap (hf : ∀ c, f c = [c] ∨ (f c).count ';' = [c].count ';' + 1) (t : Text) :
    (t.flatMap f).count ';' = t.count ';' + t.countP fun c => f c != [c] := by
  induction t with
  | nil => rfl
  | cons c t ih =>
      have hcons : (c :: t).count ';' = [c].count ';' + t.count ';' := by
        rw [← List.count_append, List.singleton_append]
      rw [List.flatMap_cons, List.count_append, ih, hcons, List.countP_cons]
      rcases hf c with h | h
      · simp only [h, bne_self_eq_false, Bool.false_eq_true, if_false]
        omega
      · have hne : (f c != [c]) = true := by
          rw [bne_iff_ne]
          intro heq
          rw [heq] at h
          omega
        rw [if_pos hne, h]
        omega

/-- **A text that has no semicolons more when it is written has no references.** -/
theorem eq_of_count_flatMap (hf : ∀ c, f c = [c] ∨ (f c).count ';' = [c].count ';' + 1)
    (h : (t.flatMap f).count ';' = t.count ';') : ∀ c ∈ t, f c = [c] := by
  rw [count_flatMap hf, Nat.add_eq_left, List.countP_eq_zero] at h
  intro c hc
  simpa using h c hc

theorem flatMap_eq_self (h : ∀ c ∈ t, f c = [c]) : t.flatMap f = t := by
  induction t with
  | nil => rfl
  | cons c t ih =>
      rw [List.flatMap_cons, h c (by simp), ih fun d hd => h d (List.mem_cons_of_mem c hd),
        List.singleton_append]

/-- A character of a text is written as it is, or as a reference. -/
theorem escapeChar_cases (c : Char) :
    escapeChar c = [c] ∨ (escapeChar c).count ';' = [c].count ';' + 1 := by
  unfold escapeChar
  split
  case h_5 => exact .inl rfl
  all_goals exact .inr rfl

theorem escapeValueChar_cases (c : Char) :
    escapeValueChar c = [c] ∨ (escapeValueChar c).count ';' = [c].count ';' + 1 := by
  unfold escapeValueChar
  split
  case h_4 => exact .inl rfl
  all_goals exact .inr rfl

/-- The characters of a text that are written as they are. -/
theorem escapeChar_eq_self_iff :
    escapeChar c = [c] ↔ c ≠ '&' ∧ c ≠ '\u00A0' ∧ c ≠ '<' ∧ c ≠ '>' := by
  constructor
  · intro h
    refine ⟨?_, ?_, ?_, ?_⟩ <;> rintro rfl <;> cases h
  · rintro ⟨hand, hspace, hless, hmore⟩
    unfold escapeChar
    split
    case h_5 => rfl
    all_goals contradiction

theorem escapeValueChar_eq_self_iff :
    escapeValueChar c = [c] ↔ c ≠ '&' ∧ c ≠ '\u00A0' ∧ c ≠ '"' := by
  constructor
  · intro h
    refine ⟨?_, ?_, ?_⟩ <;> rintro rfl <;> cases h
  · rintro ⟨hand, hspace, hquote⟩
    unfold escapeValueChar
    split
    case h_4 => rfl
    all_goals contradiction

theorem escapeValue_ne_nil (h : u ≠ []) : escapeValue u ≠ [] := by
  obtain ⟨c, u, rfl⟩ := List.exists_cons_of_ne_nil h
  rw [escapeValue, List.flatMap_cons]
  rcases escapeValueChar_cases c with hc | hc
  · simp [hc]
  · intro hnil
    rw [(List.append_eq_nil_iff.1 hnil).1] at hc
    simp at hc

/-- No element starts in a text as it is written. -/
theorem notMem_escapeText : '<' ∉ escapeText t := by
  intro hmem
  obtain ⟨c, -, hc⟩ := List.mem_flatMap.1 hmem
  by_cases hself : escapeChar c = [c]
  · rw [hself, List.mem_singleton] at hc
    exact (escapeChar_eq_self_iff.1 hself).2.2.1 hc.symm
  · revert hc hself
    unfold escapeChar
    split <;> simp

end

/-! ### Pages, token by token -/

/-- A page whose next piece is a token is read on behind that. -/
theorem Page.readFrom_token {n : Nat} {b b' : Builder} {c : Char} {t rest : Text} {token : Token}
    (hnext : Token.next b.content (inForeign b) (c :: t) = (some token, rest))
    (htake : Builder.takeToken { b with content := contentAfter b token } token = b') :
    readFrom (n + 1) b (c :: t) = readFrom n b' rest := by
  rw [readFrom, hnext]
  exact congrArg (readFrom n · rest) htake

end Html

/-! ### Headings -/

namespace Rule

/-- The elements of the name `h1`. -/
def heading : Selector := ⟨[.compound [.name "h1"]]⟩

/-- The rule that takes them as HTML. -/
theorem parse_heading : parse "h1@html" = .ok ⟨[{ target := .select heading .html }]⟩ := by
  have hextract : splitExtract "h1@html" = (['h', '1'], some ['h', 't', 'm', 'l']) := by decide
  have hselector : Selector.parse ['h', '1'] = some heading := by cbv
  have hname : Extract.ofName ['h', 't', 'm', 'l'] = .html := by decide
  have htrim : Text.trim "h1@html" = "h1@html" ∧ Text.trim ['h', '1'] = ['h', '1'] := by decide
  have hplain : splitSubstitution "h1@html" = ("h1@html".toList, none) := by decide
  have halternative : Alternative.parse "h1@html" = .ok { target := .select heading .html } := by
    simp only [Alternative.parse, hplain, Target.parse, htrim, hextract, hselector]
    simp [Except.map, hname]
  have hsplit : Text.splitOnText "||" "h1@html" = ["h1@html".toList] := by
    refine Text.splitOnText_of_notInfix ?_
    decide
  refine parse_eq_ok_iff.2 ⟨by decide, ?_⟩
  rw [hsplit]
  exact .cons halternative .nil

/-- **The heading of a page** is a text with an image behind it, and there is no other heading. -/
structure Headed (page : Context) (t u : Text) : Prop where
  select : ∃ site image inside, heading.select (Html.Page.parse page.content) = [site] ∧
    site.children = [.text t, .element image inside] ∧
    image.isHtml "img" = true ∧ image.attrs = [("src", u)]
  text_plain : '<' ∉ t ∧ '>' ∉ t
  image_ne_nil : u ≠ []
  image_plain : ∀ c ∈ u, c ≠ '"' ∧ c ≠ '\'' ∧ c ≠ '>' ∧ Text.isBlank c = false

/-- What the rule finds on a page with such a heading. -/
theorem Headed.string_eq {page : Context} {t u : Text} (h : Headed page t u) :
    (Rule.mk [{ target := .select heading .html }]).string page =
      Html.escapeText t ++ '<' :: ("img src=\"" ++ Html.escapeValue u ++ "\">") := by
  obtain ⟨site, image, inside, hselect, hchildren, himage, hattrs⟩ := h.select
  obtain ⟨hspace, hname⟩ : (image.space == .html) = true ∧ image.name = "img" := by
    simpa [Html.Element.isHtml] using himage
  have hvoid : image.isHtmlOf Html.voidNames = true := by
    rw [Html.Element.isHtmlOf, hspace, hname]
    rfl
  have htag : image.startTag = '<' :: ("img src=\"" ++ Html.escapeValue u ++ "\">") := by
    rw [Html.Element.startTag, hname, hattrs]
    simp [Html.attributeText]
  have hinner : Html.inner [.text t, .element image inside] =
      Html.escapeText t ++ '<' :: ("img src=\"" ++ Html.escapeValue u ++ "\">") := by
    simp only [Html.inner, Html.writeAll, Html.Node.write, hvoid, if_true, htag,
      Bool.false_eq_true, if_false, List.append_nil]
  -- the one value is not blank, and nothing is replaced in it
  have hblank : Text.isBlankText (Html.inner [.text t, .element image inside]) = false := by
    rw [hinner]
    simp [Text.isBlankText, show Text.isBlank '<' = false by decide]
  have hempty : (Html.inner [.text t, .element image inside]).isEmpty = false := by
    rw [hinner]
    simp
  have hvalues : Target.values page (.select heading .html) =
      [Html.inner [.text t, .element image inside]] := by
    simp [Target.values, hselect, Extract.apply, hchildren]
  simp only [string, List.map_cons, List.map_nil, Alternative.string, Alternative.substitute,
    hvalues]
  rw [← hinner]
  generalize Html.inner [.text t, .element image inside] = written at hblank hempty
  simp [hempty, hblank]

end Rule

/-! ### Titles and images -/

namespace Content

open ImageMarker

section

variable {page : Rule.Context} {t u : Text} {c : Char}

/-- What is written for an address can be one. -/
theorem isSourceChar_escapeValue (h : ∀ c ∈ u, isSourceChar c = true) :
    ∀ c ∈ Html.escapeValue u, isSourceChar c = true := by
  intro c hc
  obtain ⟨d, hd, hc⟩ := List.mem_flatMap.1 hc
  have hall : ∀ x ∈ Html.escapeValueChar d, x = d ∨ isSourceChar x = true := by
    unfold Html.escapeValueChar
    split
    case h_4 => simp
    all_goals simp [isSourceChar, Text.isBlank]
  rcases hall c hc with rfl | hsource
  · exact h c hd
  · exact hsource

/-- The heading as it is written, trimmed, taken apart. -/
def headingMarker (t u : Text) (hne : u ≠ []) (h : ∀ c ∈ u, isSourceChar c = true) : Marker :=
  .plain (Text.trimStart (Html.escapeText t))
    (ended_of_notMem fun hmem => Html.notMem_escapeText (Text.trimStart_subset _ hmem))
    ['"'] (.inr (.inl rfl)) (Html.escapeValue u) (Html.escapeValue_ne_nil hne)
    (isSourceChar_escapeValue h)

theorem trim_heading (t u : Text) (hne : u ≠ []) (h : ∀ c ∈ u, isSourceChar c = true) :
    Text.trim (Html.escapeText t ++ '<' :: ("img src=\"" ++ Html.escapeValue u ++ "\">")) =
      (headingMarker t u hne h).text := by
  have hend : Text.trimEnd ("img src=\"" ++ Html.escapeValue u ++ "\">") =
      "img src=\"" ++ Html.escapeValue u ++ "\">" := by
    have hlast : ("\">" : Text) = ['"'] ++ ['>'] := rfl
    rw [hlast, ← List.append_assoc, Text.trimEnd_append_cons (by decide)]
    rfl
  rw [Text.trim_append_cons (by decide), hend]
  simp [headingMarker, Marker.plain, Marker.text, Marker.attributes]

/-- **The title and the image of a chapter are those of its heading**, as they are there. -/
def Unaltered (t u current : Text) (r : Resolution) : Prop :=
  r = { title := if Text.isBlankText t then current else Text.trim t, image := some u }

/-- A blank text leaves the current title, and trimming leaves nothing of it: with no current title
both are the same. -/
theorem ite_isBlankText (t : Text) : (if Text.isBlankText t then [] else Text.trim t) =
    Text.trim t := by
  split
  · next hblank => exact (Text.trim_eq_nil_iff.2 hblank).symm
  · rfl

/-- What becomes of the heading. -/
theorem resolveTitle_of_headed (h : Rule.Headed page t u) {rules : RuleSet}
    (hrule : rules.title = some "h1@html".toList) (source current : Text) (j : Journal) :
    (resolveTitle source rules page current j).1 =
      { title := if Text.isBlankText (Html.escapeText t) then current
          else Text.trim (Html.escapeText t)
        image := some (Html.escapeValue u) } := by
  have hsource : ∀ c ∈ u, isSourceChar c = true := fun c hc =>
    isSourceChar_iff.2 (h.image_plain c hc)
  have hfinds : Resolver.css.FindsTitle rules page
      (Html.escapeText t ++ '<' :: ("img src=\"" ++ Html.escapeValue u ++ "\">")) := by
    refine ⟨"h1@html", ?_, ?_⟩
    · rw [hrule]
      decide
    · show (Rule.parse "h1@html").map (·.string page) = _
      rw [Rule.parse_heading, ← h.string_eq]
      rfl
  have hdecodes := Resolver.css.titleFrom_decodes rules page current
  have hmarked := hdecodes.marked _ _ hfinds (trim_heading t u h.image_ne_nil hsource)
  have hblank : Text.isBlankText (Text.trimStart (Html.escapeText t)) =
      Text.isBlankText (Html.escapeText t) := by
    rw [← Text.isEmpty_trim, Text.trim_trimStart, Text.isEmpty_trim]
  have hcss : (resolveTitle source rules page current j).1 =
      Resolver.css.titleFrom rules page current := resolveTitle_fst source rules page current j
  rw [hcss, hmarked]
  simp only [headingMarker, Marker.plain, hblank, Text.trim_trimStart]

/-- A heading without characters that are written as references comes off the page as it is. -/
theorem unaltered_of_plain (hplain : '<' ∉ t ∧ '>' ∉ t)
    (himage : ∀ c ∈ u, isSourceChar c = true)
    (h : '&' ∉ t ∧ '\u00A0' ∉ t ∧ '&' ∉ u) :
    Html.escapeText t = t ∧ Html.escapeValue u = u := by
  obtain ⟨hand, hspace, himageAnd⟩ := h
  constructor
  · refine Html.flatMap_eq_self fun c hc => Html.escapeChar_eq_self_iff.2 ⟨?_, ?_, ?_, ?_⟩
    · exact fun heq => hand (heq ▸ hc)
    · exact fun heq => hspace (heq ▸ hc)
    · exact fun heq => hplain.1 (heq ▸ hc)
    · exact fun heq => hplain.2 (heq ▸ hc)
  · refine Html.flatMap_eq_self fun c hc => Html.escapeValueChar_eq_self_iff.2 ?_
    obtain ⟨hquote, -, -, hblank⟩ := isSourceChar_iff.1 (himage c hc)
    refine ⟨fun heq => himageAnd (heq ▸ hc), ?_, hquote⟩
    rintro rfl
    cases hblank

/-- **What becomes of the heading of a page, and when it comes off unaltered**: the title and the
image have references in them wherever the heading has an `&` or a no-break space, so the page is
taken as it is exactly if there is none. -/
theorem resolveTitle_heading (h : Rule.Headed page t u) {rules : RuleSet}
    (hrule : rules.title = some "h1@html".toList) (source : Text) :
    (∀ current j, (resolveTitle source rules page current j).1 =
      { title := if Text.isBlankText (Html.escapeText t) then current
          else Text.trim (Html.escapeText t)
        image := some (Html.escapeValue u) }) ∧
    ((∀ current j, Unaltered t u current (resolveTitle source rules page current j).1) ↔
      '&' ∉ t ∧ '\u00A0' ∉ t ∧ '&' ∉ u) := by
  have hresolve := fun current j => resolveTitle_of_headed h hrule source current j
  refine ⟨hresolve, ?_⟩
  constructor
  case mp =>
    intro hunaltered
    -- without a current title, what is written is trimmed to what the text is trimmed to
    have hsame := hunaltered [] {}
    rw [Unaltered, hresolve, Resolution.mk.injEq, ite_isBlankText, ite_isBlankText,
      Option.some.injEq] at hsame
    obtain ⟨htitle, himage⟩ := hsame
    have hcount : (Html.escapeText t).count ';' = t.count ';' := by
      rw [← Text.count_trim (by decide), htitle, Text.count_trim (by decide)]
    have htext := Html.eq_of_count_flatMap Html.escapeChar_cases hcount
    have hvalue := Html.eq_of_count_flatMap Html.escapeValueChar_cases
      (congrArg (List.count ';') himage)
    refine ⟨fun hmem => ?_, fun hmem => ?_, fun hmem => ?_⟩
    · exact (Html.escapeChar_eq_self_iff.1 (htext _ hmem)).1 rfl
    · exact (Html.escapeChar_eq_self_iff.1 (htext _ hmem)).2.1 rfl
    · exact (Html.escapeValueChar_eq_self_iff.1 (hvalue _ hmem)).1 rfl
  case mpr =>
    intro hplain current j
    obtain ⟨ht, hu⟩ := unaltered_of_plain h.text_plain
      (fun c hc => isSourceChar_iff.2 (h.image_plain c hc)) hplain
    rw [Unaltered, hresolve, ht, hu]

end

/-! ### A heading with references -/

/-- The text `<h1>&<img src=&></h1>`. -/
def andPage : Text :=
  ['<', 'h', '1', '>', '&', '<', 'i', 'm', 'g', ' ', 's', 'r', 'c', '=', '&', '>', '<', '/', 'h',
    '1', '>']

/-- Its image. -/
def andPage.image : Html.Element := { order := 6, name := "img", attrs := [("src", ['&'])] }

/-- The elements around its heading. -/
def andPage.body (inside : List Html.Node) : Html.Node :=
  .element { order := 1, name := "html" } [.element { order := 2, name := "head" } [],
    .element { order := 3, name := "body" } [.element { order := 4, name := "h1" } inside]]

set_option maxRecDepth 20000 in
theorem andPage.parse_eq : Html.Page.parse andPage =
    ⟨[andPage.body [.text ['&'], .element andPage.image []]], []⟩ := by
  have hinput : Html.Token.normalizeInput andPage = andPage := by cbv
  -- a start tag, a text, a start tag and an end tag
  have hread : Html.Page.readFrom 22 {} andPage = _ :=
    (Html.Page.readFrom_token (by cbv) (by cbv)).trans <|
    (Html.Page.readFrom_token (by cbv) (by cbv)).trans <|
    (Html.Page.readFrom_token (by cbv) (by cbv)).trans <|
    Html.Page.readFrom_token (by cbv) (by cbv)
  have hlength : andPage.length + 1 = 22 := rfl
  simp only [Html.Page.parse, Html.Page.read, hinput, hlength]
  rw [hread]
  cbv

set_option maxRecDepth 20000 in
theorem andPage.headed : Rule.Headed ⟨andPage, .blank⟩ ['&'] ['&'] where
  select := by
    have hselect := congrArg Rule.heading.select andPage.parse_eq
    exact ⟨_, andPage.image, [], hselect.trans (by cbv), rfl, rfl, rfl⟩
  text_plain := by simp
  image_ne_nil := by simp
  image_plain := by
    intro c hc
    obtain rfl := List.mem_singleton.1 hc
    decide

set_option maxRecDepth 20000 in
/-- The references of that heading are in the title and in the image. -/
theorem resolveTitle_heading_and :
    Rule.Headed ⟨andPage, .blank⟩ ['&'] ['&'] ∧
    (resolveTitle [] { title := some "h1@html".toList } ⟨andPage, .blank⟩ ['c'] {}).1 =
      { title := "&amp;", image := some "&amp;".toList } := by
  refine ⟨andPage.headed, ?_⟩
  rw [(resolveTitle_heading andPage.headed rfl []).1 ['c'] {}]
  decide

/-- **A heading that does not come off the page as it is.** -/
theorem resolveTitle_alters :
    ¬ ∀ (page : Rule.Context) (t u current : Text), Rule.Headed page t u →
      Unaltered t u current
        (resolveTitle [] { title := some "h1@html".toList } page current {}).1 := by
  intro hall
  have hsame := hall ⟨andPage, .blank⟩ ['&'] ['&'] ['c'] andPage.headed
  rw [Unaltered, resolveTitle_of_headed andPage.headed rfl, Resolution.mk.injEq] at hsame
  obtain ⟨-, himage⟩ := hsame
  cases himage

end Content

end ChapterAssembly
