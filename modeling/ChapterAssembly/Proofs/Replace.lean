/-
**Replace rules that match nothing.**

A replace rule is applied to the pages with their lines trimmed, and the lines of what it finds are
trimmed and indented once more.  Nothing of the text of the pages gets lost on that way: the pages
are laid out, so that trimming takes away what was put in front of a paragraph and nothing else, and
the last page ends with a paragraph, so that its end is no line of its own.  A rule whose expression
matches nothing leaves the pages as they are joined without a rule.

Main definitions:

* `Rule.Rewrites` — the texts of the rules that replace something on the page as it is.

Main results:

* `Rule.parse_eq_rewriting_iff` — these texts, with an expression as their pattern, are the rules of
  one alternative without selector and extract;
* `Content.normalize_of_search_eq_none` — **a replace rule that matches nothing changes nothing**.
-/

import ChapterAssembly.Proofs.Paragraphs
import ChapterAssembly.Proofs.Rule.Faults

set_option relaxedAutoImplicit false
set_option autoImplicit false

namespace ChapterAssembly

/-! ### Rules that replace something on the page as it is -/

namespace Rule

variable {rule head p r : Text} {regex : Regex}

/-- **A rule of one alternative that only replaces**: `##` and a pattern, perhaps with another `##`
and a replacement behind it.  A replacement that is missing is empty. -/
inductive Rewrites (rule : Text) : Text → Text → Prop where
  | bare {head p : Text} (hrule : rule = head ++ ['#', '#'] ++ p)
      (hhead : Text.isBlankText head = true) (hp : ¬ ['#', '#'] <:+: p)
      (hbars : ¬ ['|', '|'] <:+: rule) : Rewrites rule p []
  | full {head p r : Text} (hrule : rule = head ++ ['#', '#'] ++ (p ++ ['#', '#'] ++ r))
      (hhead : Text.isBlankText head = true) (hp : ¬ ['#', '#'] <:+: p)
      (hp' : p.getLast? ≠ some '#') (hbars : ¬ ['|', '|'] <:+: rule) : Rewrites rule p r

/-- The rule that replaces what an expression matches on the page as it is. -/
def rewriting (regex : Regex) (r : Text) : Rule :=
  ⟨[{ target := .content, substitution? := some ⟨regex, r⟩ }]⟩

/-- Nothing in a blank text is a number sign. -/
theorem hash_notMem_of_isBlankText (h : Text.isBlankText head = true) : '#' ∉ head := by
  intro hmem
  have hblank : Text.isBlank '#' = true := List.all_eq_true.1 h _ hmem
  revert hblank
  decide

/-- **Behind blanks the first `##` is the one of the pattern.** -/
theorem cutAt?_hashes_iff (h : Text.isBlankText head = true) {tail : Text} :
    Text.cutAt? ['#', '#'] rule = some (head, tail) ↔ rule = head ++ ['#', '#'] ++ tail := by
  have hmem := hash_notMem_of_isBlankText h
  refine Text.cutAt?_double_eq_some_iff.trans (and_iff_left ⟨fun hi => ?_, fun hl => ?_⟩)
  · exact hmem (hi.subset (by simp))
  · exact hmem (List.mem_of_getLast? hl)

/-- **The pattern and the replacement of a rule** that replaces something on the page as it is. -/
theorem rewrites_iff : Rewrites rule p r ↔ ¬ ['|', '|'] <:+: rule ∧
    ∃ head, Text.isBlankText head = true ∧ splitSubstitution rule = (head, some (p, r)) := by
  have hsep : ("##" : Text) = ['#', '#'] := rfl
  constructor
  · intro h
    cases h with
    | @bare head p hrule hhead hp hbars =>
        refine ⟨hbars, head, hhead, ?_⟩
        rw [splitSubstitution, hsep, (cutAt?_hashes_iff hhead).2 hrule]
        simp only [Text.cutAt?_eq_none_iff.2 hp]
    | @full head p r hrule hhead hp hp' hbars =>
        refine ⟨hbars, head, hhead, ?_⟩
        rw [splitSubstitution, hsep, (cutAt?_hashes_iff hhead).2 hrule]
        simp only [Text.cutAt?_double hp hp']
  · rintro ⟨hbars, head, hhead, hsplit⟩
    rw [splitSubstitution, hsep] at hsplit
    split at hsplit
    · simp at hsplit
    · next head' tail hcut =>
        split at hsplit
        · next pattern replacement hcut' =>
            obtain ⟨rfl, rfl, rfl⟩ : head' = head ∧ pattern = p ∧ replacement = r := by
              simpa using hsplit
            obtain ⟨rfl, hp, hp'⟩ := Text.cutAt?_double_eq_some_iff.1 hcut'
            exact .full ((cutAt?_hashes_iff hhead).1 hcut) hhead hp hp' hbars
        · next hnone =>
            obtain ⟨rfl, rfl, rfl⟩ : head' = head ∧ tail = p ∧ [] = r := by simpa using hsplit
            exact .bare ((cutAt?_hashes_iff hhead).1 hcut) hhead
              (Text.cutAt?_eq_none_iff.1 hnone) hbars

/-- Without an extract the whole head is the selector. -/
theorem splitExtract_fst (h : (splitExtract head).2 = none) : (splitExtract head).1 = head := by
  simp only [splitExtract] at h ⊢
  split at h
  · cases h
  · rfl

/-- Only blanks have neither a selector nor an extract. -/
theorem Target.parse_eq_content_iff :
    Target.parse head = .ok .content ↔ Text.isBlankText head = true := by
  rw [← Text.trim_eq_nil_iff]
  constructor
  · intro h
    simp only [Target.parse] at h
    split at h
    · next hempty =>
        split at h
        · next hnone =>
            rwa [splitExtract_fst hnone, Text.trim_trim, List.isEmpty_iff] at hempty
        · cases h
    · split at h <;> cases h
  · intro h
    rw [Target.parse, h]
    rfl

/-- A rule that only replaces is not blank. -/
theorem Rewrites.isBlankText_eq_false (h : Rewrites rule p r) : Text.isBlankText rule = false := by
  obtain ⟨-, head, -, hsplit⟩ := rewrites_iff.1 h
  rw [Bool.eq_false_iff]
  intro hblank
  have hcut : splitSubstitution rule = (rule, none) := by
    rw [splitSubstitution, Text.cutAt?_eq_none_iff.2]
    exact fun hi => hash_notMem_of_isBlankText hblank (hi.subset (by decide))
  simp [hcut] at hsplit

/-- **The rules of one alternative without selector and extract** are those that only replace, with
an expression as their pattern. -/
theorem parse_eq_rewriting_iff : parse rule = .ok (rewriting regex r) ↔
    ∃ p, Rewrites rule p r ∧ Regex.parse p = some regex := by
  have hbarsep : ("||" : Text) = ['|', '|'] := rfl
  constructor
  · intro h
    obtain ⟨-, halternatives⟩ := parse_eq_ok_iff.1 h
    obtain ⟨text, halternative, hone⟩ :
        ∃ text, Alternative.parse text = .ok ⟨.content, some ⟨regex, r⟩⟩ ∧
          Text.splitOnText "||" rule = [text] := by
      simpa [rewriting, List.forall₂_cons_right_iff] using halternatives
    obtain ⟨hbars, rfl⟩ := (Text.splitOnText_eq_singleton_iff (by decide)).1 hone
    unfold Alternative.parse at halternative
    split at halternative
    · next head hsplit =>
        cases ht : Target.parse head <;> simp [ht, Except.map] at halternative
    · next head p r' hsplit =>
        cases hp : Regex.parse p with
        | none => simp [Substitution.parse, hp] at halternative
        | some regex' =>
            simp only [Substitution.parse, hp] at halternative
            cases ht : Target.parse head with
            | error e => simp [ht, Except.map] at halternative
            | ok target =>
                obtain ⟨rfl, rfl, rfl⟩ : target = .content ∧ regex' = regex ∧ r' = r := by
                  simpa [ht, Except.map] using halternative
                exact ⟨p, rewrites_iff.2 ⟨hbars, head, Target.parse_eq_content_iff.1 ht, hsplit⟩,
                  hp⟩
  · rintro ⟨p, hrule, hp⟩
    obtain ⟨hbars, head, hhead, hsplit⟩ := rewrites_iff.1 hrule
    have hone := Text.splitOnText_of_notInfix hbars
    have halternative : Alternative.parse rule = .ok ⟨.content, some ⟨regex, r⟩⟩ := by
      simp only [Alternative.parse, hsplit, Substitution.parse, hp,
        Target.parse_eq_content_iff.2 hhead]
      rfl
    refine parse_eq_ok_iff.2 ⟨hrule.isBlankText_eq_false, ?_⟩
    rw [hbarsep, hone]
    exact .cons halternative .nil

/-- **What a rule finds whose expression matches nothing**: the page as it is, unless it is
blank. -/
theorem string_rewriting {c : Context} (hblank : Text.isBlankText c.content = false)
    (h : (Regex.program regex).search none c.content = none) :
    (rewriting regex r).string c = c.content := by
  have hne : c.content ≠ [] := by
    intro hnil
    rw [hnil] at hblank
    cases hblank
  have hsame : Regex.replaceAll regex r c.content = c.content := by
    simp only [Regex.replaceAll, Regex.replaceFrom, h]
  have hfound : Alternative.string c { target := .content, substitution? := some ⟨regex, r⟩ } =
      c.content := by
    simp [Alternative.string, Target.values, Alternative.substitute, hne, hsame]
  simp [string, rewriting, hfound, hblank]

end Rule

namespace Content

/-! ### Pages -/

/-- **Pages whose last one is not empty end with a paragraph.** -/
theorem getLast?_pieces_join {pages : Pages}
    (hpages : ∀ page ∈ pages.texts, ∃ t, page = indentParagraphs t)
    (hlast : ∃ page ∈ pages.texts.getLast?, page ≠ []) :
    (Text.pieces pages.join).getLast? ≠ some [] := by
  obtain ⟨page, hmem, hne⟩ := hlast
  obtain ⟨ps, hps⟩ := List.getLast?_eq_some_iff.1 hmem
  obtain ⟨t, rfl⟩ := hpages page (List.mem_of_getLast? hmem)
  have hpieces : Text.pieces pages.join =
      ps.flatMap Text.pieces ++ (paragraphs t).map (indent ++ ·) := by
    rw [Pages.join, hps, Text.pieces, Text.splitOnChar_joinWith (by simp), List.flatMap_append,
      List.flatMap_singleton]
    exact congrArg _ (pieces_indentParagraphs hne)
  rw [hpieces, List.getLast?_append_of_ne_nil, List.getLast?_map]
  · intro hnil
    obtain ⟨p, -, hp⟩ := Option.map_eq_some_iff.1 hnil
    simp [indent] at hp
  · intro hnil
    rw [List.map_eq_nil_iff] at hnil
    exact hne (indentParagraphs_eq_nil_iff.2 hnil)

/-- **A replace rule that matches nothing changes nothing.**  The pages are what the markup of some
fragments leaves, empty ones among them, but not the last. -/
theorem normalize_of_search_eq_none {pages : Pages} {rule p r : Text} {regex : Regex}
    (hpages : ∀ page ∈ pages.texts, ∃ base html, page = formatKeepImages base html)
    (hlast : ∃ page ∈ pages.texts.getLast?, page ≠ [])
    (hrule : Rule.Rewrites rule p r) (hp : Regex.parse p = some regex)
    (hnone : (Regex.program regex).search none (trimLines pages.join) = none)
    (base : Url) (j j' : Journal) :
    (normalize pages (some rule) base j).1 = (normalize pages none base j').1 ∧
      (normalize pages none base j').1 = .ok (Text.joinWith ['\n'] pages.texts) := by
  have hprinted : ∀ page ∈ pages.texts, ∃ t, page = indentParagraphs t := by
    intro page hpage
    obtain ⟨_, _, rfl⟩ := hpages page hpage
    exact ⟨_, rfl⟩
  have hlaid : LaidOut pages.join := by
    refine laidOut_joinWith fun page hpage => ?_
    obtain ⟨t, rfl⟩ := hprinted page hpage
    exact laidOut_indentParagraphs t
  have hend := getLast?_pieces_join hprinted hlast
  have hgiven : RuleSet.given (some rule) = some rule := by
    rw [RuleSet.given, Option.filter_some, hrule.isBlankText_eq_false]
    rfl
  have hparse : Rule.parse rule = .ok (Rule.rewriting regex r) :=
    Rule.parse_eq_rewriting_iff.2 ⟨p, hrule, hp⟩
  have hstring : (Rule.rewriting regex r).string ⟨trimLines pages.join, base⟩ =
      trimLines pages.join :=
    Rule.string_rewriting (hlaid.isBlankText_trimLines hend) hnone
  have hnothing : (normalize pages none base j').1 = .ok pages.join := by
    rw [normalize_fst]
    rfl
  have hrewritten : (normalize pages (some rule) base j).1 = .ok pages.join := by
    rw [normalize_fst]
    simp only [finalText, hgiven, hparse, Except.map, hstring, hlaid.indentLines_trimLines hend]
  exact ⟨hrewritten.trans hnothing.symm, hnothing⟩

/-- Two paragraphs on pages with an empty one between them. -/
def spacedPages : Pages := ⟨["\u3000\u3000a", [], "\u3000\u3000b"]⟩

/-- A pattern for something that stands nowhere keeps pages and the empty line between them. -/
theorem normalize_spacedPages :
    (normalize spacedPages (some "##z##y") .blank {}).1 = .ok "\u3000\u3000a\n\n\u3000\u3000b" := by
  have hpages : ∀ page ∈ spacedPages.texts, ∃ base html, page = formatKeepImages base html := by
    have ha : ("\u3000\u3000a" : Text) = formatKeepImages .blank "a" := by decide +kernel
    have hnil : [] = formatKeepImages .blank "" := by decide +kernel
    have hb : ("\u3000\u3000b" : Text) = formatKeepImages .blank "b" := by decide +kernel
    simp only [spacedPages, List.forall_mem_cons]
    exact ⟨⟨_, _, ha⟩, ⟨_, _, hnil⟩, ⟨_, _, hb⟩, by simp⟩
  have hrule : Rule.Rewrites "##z##y" "z" "y" :=
    @Rule.Rewrites.full _ [] _ _ rfl rfl (by decide) (by decide) (by decide)
  obtain ⟨regex, hregex⟩ : ∃ regex, Regex.parse "z" = some regex :=
    Option.isSome_iff_exists.1 (by decide +kernel)
  have hnone : (Regex.program regex).search none (trimLines spacedPages.join) = none := by
    have hget : regex = (Regex.parse "z").get (by decide +kernel) := by
      simp only [hregex, Option.get_some]
    rw [hget]
    decide +kernel
  obtain ⟨hsame, hjoined⟩ :=
    normalize_of_search_eq_none hpages ⟨_, rfl, by simp⟩ hrule hregex hnone .blank {} {}
  exact hsame.trans hjoined

end Content

end ChapterAssembly
