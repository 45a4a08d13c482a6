/-
**What a rule finds as one text and as separate ones.**

A rule is asked for one text, for separate texts, or for links.  One text is put together from the
values of an alternative before anything is replaced in it, and separate texts are trimmed after
something was replaced in each.  Where no alternative replaces anything the two agree: the same
alternative counts, the first with a value that is not blank.  Links are the separate texts made
absolute, whatever is replaced.

Main definitions:

* `Rule.Plain` — no alternative of a rule replaces anything;
* `Rule.Chosen` — what a rule finds that replaces nothing;
* `Rule.Agree` — how the answers to the three questions go together.

Main results:

* `Rule.Alternative.isBlankText_string`, `Rule.Alternative.isEmpty_list` — an alternative finds
  something just if a value of it is not blank, either way;
* `Rule.chosen_of_plain` — the same alternative counts for one text and for separate ones;
* `Rule.agree_of_parse` — **the answers agree**, whatever the evaluator has been asked before.

Mathlib is imported as a whole for the equations by which `cbv` evaluates a page.
-/

import Mathlib
import ChapterAssembly.Notes.Journal
import ChapterAssembly.Proofs.Rule.Faults
import ChapterAssembly.Proofs.Selector.Order
import ChapterAssembly.Proofs.Text.Cuts

set_option relaxedAutoImplicit false
set_option autoImplicit false

namespace ChapterAssembly

/-! ### Links that are not empty -/

/-- A link is empty only if it is blank. -/
theorem Url.absolute_ne_nil (base : Url) {href : Text} (h : Text.trim href ≠ []) :
    absolute base href ≠ [] := by
  simp only [absolute, List.isEmpty_iff, h, if_false]
  split
  · simp [Url.text]
  · exact h

theorem Noted.list_fst (rule : Text) (c : Rule.Context) (j : Journal) :
    (Noted.list rule c j).1 = (Rule.parse rule).map (·.list c) := by
  rw [← compile_fst rule j]
  rfl

namespace Rule

variable {c : Context} {a : Alternative} {as : List Alternative} {r : Rule} {rule : Text}

/-! ### Alternatives -/

/-- A value of the alternative is not blank. -/
def Alternative.finds (c : Context) (a : Alternative) : Bool :=
  (a.target.values c).any fun v => !Text.isBlankText v

/-- **One text is found just if a value is not blank**, where nothing is replaced. -/
theorem Alternative.isBlankText_string (h : a.substitution? = none) :
    (!Text.isBlankText (a.string c)) = a.finds c := by
  have hstring : a.string c =
      Text.joinWith ['\n'] ((a.target.values c).filter fun v => !v.isEmpty) := by
    simp only [string, substitute, h]
  rw [hstring, Text.isBlankText_joinWith, finds, List.not_all_eq_any_not]
  -- what is empty is blank
  induction a.target.values c with
  | nil => rfl
  | cons v vs ih =>
      cases v with
      | nil => simpa [Text.isBlankText] using ih
      | cons x v => simpa using congrArg (!Text.isBlankText (x :: v) || ·) ih

/-- **Separate texts are found just if a value is not blank**, where nothing is replaced. -/
theorem Alternative.isEmpty_list (h : a.substitution? = none) :
    (!(a.list c).isEmpty) = a.finds c := by
  have hlist : a.list c = ((a.target.values c).map Text.trim).filter fun v => !v.isEmpty := by
    simp only [list, substitute, h]
  rw [hlist, finds]
  induction a.target.values c with
  | nil => rfl
  | cons v vs ih =>
      rw [List.map_cons, List.any_cons, ← ih, List.filter_cons, Text.isEmpty_trim]
      cases Text.isBlankText v <;> rfl

/-! ### Rules that replace nothing -/

/-- **No alternative of a rule replaces anything.** -/
def Plain (rule : Text) : Prop := ∀ text ∈ Text.splitOnText "||" rule, ¬ ['#', '#'] <:+: text

/-- **What a rule finds that replaces nothing**, as one text and as separate ones: nothing, where
all values of all alternatives are blank, or else something made of the values of the first
alternative that has another one. -/
inductive Chosen (c : Context) (as : List Alternative) : Text → List Text → Prop where
  | nothing (h : ∀ a ∈ as, ∀ v ∈ a.target.values c, Text.isBlankText v = true) : Chosen c as [] []
  | first {before after : List Alternative} {a : Alternative} {v : Text}
      (has : as = before ++ a :: after)
      (hbefore : ∀ b ∈ before, ∀ v ∈ b.target.values c, Text.isBlankText v = true)
      (hv : v ∈ a.target.values c) (hfull : Text.isBlankText v = false) :
      Chosen c as (Text.joinWith ['\n'] ((a.target.values c).filter fun v => !v.isEmpty))
        (((a.target.values c).map Text.trim).filter fun v => !v.isEmpty)

/-- An alternative replaces nothing just if there is no `##` in its text. -/
theorem Alternative.substitution?_eq_none_iff {text : Text} (h : Alternative.parse text = .ok a) :
    a.substitution? = none ↔ ¬ ['#', '#'] <:+: text := by
  have hmap : ∀ {head : Text} {f : Target → Alternative},
      (Target.parse head).map f = .ok a → ∃ target, a = f target := by
    intro head f hf
    cases ht : Target.parse head with
    | error e => simp [ht, Except.map] at hf
    | ok target => exact ⟨target, by simpa [ht, Except.map, eq_comm] using hf⟩
  have hcut : Text.cutAt? "##" text = none ↔ ¬ ['#', '#'] <:+: text := Text.cutAt?_eq_none_iff
  rw [← hcut]
  unfold Alternative.parse splitSubstitution at h
  cases hhead : Text.cutAt? "##" text with
  | none =>
      simp only [hhead] at h
      obtain ⟨target, rfl⟩ := hmap h
      simp
  | some parts =>
      simp only [hhead] at h
      split at h
      · next hnone => split at hnone <;> simp at hnone
      · split at h
        · cases h
        · obtain ⟨target, rfl⟩ := hmap h
          simp

/-- No alternative of a rule that replaces nothing has a substitution. -/
theorem Plain.substitution?_eq_none (hplain : Plain rule) (h : parse rule = .ok r) :
    ∀ a ∈ r.alternatives, a.substitution? = none := by
  have hread := (parse_eq_ok_iff.1 h).2
  unfold Plain at hplain
  generalize Text.splitOnText "||" rule = texts at hplain hread
  generalize r.alternatives = as at hread
  induction hread with
  | nil => simp
  | cons ha _ ih =>
      obtain ⟨htext, htexts⟩ := List.forall_mem_cons.1 hplain
      exact List.forall_mem_cons.2 ⟨(Alternative.substitution?_eq_none_iff ha).2 htext, ih htexts⟩

/-- The first alternative of some that finds something, in one way or another. -/
theorem find?_map {α : Type} (f : Alternative → α) (p : α → Bool)
    (h : ∀ a ∈ as, p (f a) = a.finds c) :
    (as.map f).find? p = (as.find? (Alternative.finds c)).map f := by
  rw [List.find?_map]
  congr 1
  exact List.find?_congr h

/-- **The same alternative counts for one text and for separate ones**, where none replaces
anything. -/
theorem chosen_of_plain (h : ∀ a ∈ r.alternatives, a.substitution? = none) :
    Chosen c r.alternatives (r.string c) (r.list c) := by
  have hstring : r.string c = (((r.alternatives.find? (Alternative.finds c)).map
      (Alternative.string c)).getD []) := by
    rw [string, find?_map (Alternative.string c) (fun v => !Text.isBlankText v) fun a ha =>
      Alternative.isBlankText_string (h a ha)]
  have hlist : r.list c = (((r.alternatives.find? (Alternative.finds c)).map
      (Alternative.list c)).getD []) := by
    rw [list, find?_map (Alternative.list c) (fun vs => !vs.isEmpty) fun a ha =>
      Alternative.isEmpty_list (h a ha)]
  have hblank : ∀ b : Alternative, b.finds c = false →
      ∀ v ∈ b.target.values c, Text.isBlankText v = true := by
    intro b hb v hv
    simpa using List.any_eq_false.1 hb v hv
  rw [hstring, hlist]
  cases hfind : r.alternatives.find? (Alternative.finds c) with
  | none =>
      refine .nothing fun a ha => hblank a ?_
      simpa using List.find?_eq_none.1 hfind a ha
  | some a =>
      obtain ⟨hfinds, before, after, has, hbefore⟩ := List.find?_eq_some_iff_append.1 hfind
      obtain ⟨v, hv, hfull⟩ := List.any_eq_true.1 hfinds
      have hnone : a.substitution? = none := h a (by simp [has])
      have hchosen := Chosen.first has (fun b hb => hblank b (by simpa using hbefore b hb)) hv
        (by simpa using hfull)
      simpa [Alternative.string, Alternative.list, Alternative.substitute, hnone,
        Function.comp_def] using hchosen

/-- **There is one text just if there are separate ones.** -/
theorem Chosen.eq_nil_iff {t : Text} {ts : List Text} (h : Chosen c as t ts) :
    t = [] ↔ ts = [] := by
  cases h with
  | nothing h => simp
  | @first before after a v has hbefore hv hfull =>
      have hne : v ≠ [] := by
        rintro rfl
        cases hfull
      refine iff_of_false (fun hnil => ?_) fun hnil => ?_
      · have hmem : v ∈ (a.target.values c).filter fun v => !v.isEmpty :=
          List.mem_filter.2 ⟨hv, by simpa using hne⟩
        have hblank : Text.isBlankText (Text.joinWith ['\n']
            ((a.target.values c).filter fun v => !v.isEmpty)) = true := by
          rw [hnil]
          rfl
        rw [Text.isBlankText_joinWith, List.all_eq_true] at hblank
        rw [hblank v hmem] at hfull
        cases hfull
      · have hmem : Text.trim v ∈ ((a.target.values c).map Text.trim).filter fun v => !v.isEmpty :=
          List.mem_filter.2 ⟨List.mem_map_of_mem hv, by rw [Text.isEmpty_trim, hfull]; rfl⟩
        rw [hnil] at hmem
        cases hmem

/-! ### Answers -/

/-- Separate texts are trimmed and not empty, whatever is replaced in them. -/
theorem trim_ne_nil_of_mem_list {t : Text} (h : t ∈ r.list c) : Text.trim t ≠ [] := by
  unfold list at h
  cases hfind : (r.alternatives.map (Alternative.list c)).find? fun vs => !vs.isEmpty with
  | none => simp [hfind] at h
  | some ts =>
      rw [hfind, Option.getD_some] at h
      obtain ⟨a, -, rfl⟩ := List.mem_map.1 (List.mem_of_find?_eq_some hfind)
      obtain ⟨hmem, hne⟩ := List.mem_filter.1 h
      obtain ⟨v, -, rfl⟩ := List.mem_map.1 hmem
      rw [Text.trim_trim]
      simpa using hne

/-- No link is empty. -/
theorem nil_notMem_links : [] ∉ r.links c := by
  intro h
  obtain ⟨t, ht, hnil⟩ := List.mem_map.1 h
  exact Url.absolute_ne_nil c.base (trim_ne_nil_of_mem_list ht) hnil

/-- **How the answers to the three questions go together**: one text, separate texts, and links. -/
structure Agree (c : Context) (rule : Text) (r : Rule) (t : Text) (ts links : List Text) :
    Prop where
  /-- Where nothing is replaced, there is one text just if there are separate ones. -/
  nothing : Plain rule → (t = [] ↔ ts = [])
  /-- Both are made of the values of the same alternative. -/
  chosen : Plain rule → Chosen c r.alternatives t ts
  /-- The values of an alternative that selects are taken from the matches as they are reported. -/
  values : ∀ a ∈ r.alternatives, ∀ sel extract, a.target = .select sel extract →
    ∃ found, sel.Reported (Html.Page.parse c.content) found ∧
      a.target.values c = found.map fun s => extract.apply s.element s.children
  /-- Links are the separate texts made absolute. -/
  links_eq : links = ts.map (Url.absolute c.base)
  /-- No link is empty. -/
  links_full : [] ∉ links

/-- **The answers to the three questions agree**, on every page and whatever the evaluator has been
asked before. -/
theorem agree_of_parse (h : parse rule = .ok r) (c : Context) :
    ∃ t ts links, (∀ j, (Noted.string rule c j).1 = .ok t) ∧
      (∀ j, (Noted.list rule c j).1 = .ok ts) ∧ (∀ j, (Noted.links rule c j).1 = .ok links) ∧
      Agree c rule r t ts links := by
  refine ⟨r.string c, r.list c, r.links c, fun j => ?_, fun j => ?_, fun j => ?_, ?_⟩
  · rw [Noted.string_fst, h]
    rfl
  · rw [Noted.list_fst, h]
    rfl
  · rw [Noted.links_fst, h]
    rfl
  · have hchosen := fun hplain : Plain rule =>
      chosen_of_plain (c := c) (hplain.substitution?_eq_none h)
    refine ⟨fun hplain => (hchosen hplain).eq_nil_iff, hchosen, ?_, rfl, nil_notMem_links⟩
    intro a _ sel extract htarget
    refine ⟨sel.select (Html.Page.parse c.content), Selector.reported_select _ _, ?_⟩
    rw [htarget]
    rfl

/-! ### A page on which reading moves an element -/

/-- The rule for the texts of all paragraphs. -/
def paragraphs : Rule := ⟨[{ target := .select ⟨[.compound [.name "p"]]⟩ .text }]⟩

theorem parse_paragraphs : parse "p" = .ok paragraphs := by cbv

theorem plain_paragraphs : Plain "p" := by
  intro text htext
  rw [Text.splitOnText_of_notInfix (by decide), List.mem_singleton] at htext
  subst htext
  decide

/-- The second paragraph of this page stands in a row of a table, but in no cell of it. -/
def fosterPage : Context := ⟨"<table><td><p>1<tr><p>2".toList, .blank⟩

/-- Reading puts it in front of the table. -/
theorem fosterPage.parse_eq : Html.Page.parse fosterPage.content =
    ⟨[.element { order := 1, name := "html" } [.element { order := 2, name := "head" } [],
      .element { order := 3, name := "body" }
        [.element { order := 11, name := "p" } [.text ['2']],
        .element { order := 4, name := "table" } [.element { order := 5, name := "tbody" }
          [.element { order := 6, name := "tr" } [.element { order := 7, name := "td" }
            [.element { order := 8, name := "p" } [.text ['1']]]],
          .element { order := 10, name := "tr" } []]]]]], []⟩ := by
  cbv

theorem fosterPage.list_eq : paragraphs.list fosterPage = [['1'], ['2']] := by
  simp only [list, paragraphs, List.map_cons, List.map_nil, Alternative.list, Target.values,
    fosterPage.parse_eq]
  cbv

/-- The paragraphs of that page, in the order in which they were made. -/
theorem agree_fosterPage : ∃ t links,
    Agree fosterPage "p" paragraphs t [['1'], ['2']] links := by
  obtain ⟨t, ts, links, -, hts, -, hagree⟩ := agree_of_parse parse_paragraphs fosterPage
  have hlist : (Noted.list "p" fosterPage {}).1 = .ok [['1'], ['2']] := by
    rw [Noted.list_fst, parse_paragraphs, ← fosterPage.list_eq]
    rfl
  obtain rfl : ts = [['1'], ['2']] := Except.ok.inj ((hts {}).symm.trans hlist)
  exact ⟨t, links, hagree⟩

/-- **Separate texts are not always in document order.** -/
theorem list_not_inDocument :
    ¬ ∀ (rule : Text) (sel : Selector) (extract : Extract) (c : Context),
      parse rule = .ok ⟨[{ target := .select sel extract }]⟩ → Plain rule →
      (Noted.list rule c {}).1 = .ok
        (((sel.inDocument (Html.Page.parse c.content)).map fun s =>
          Text.trim (extract.apply s.element s.children)).filter fun v => !v.isEmpty) := by
  intro hall
  have hlist := hall "p" _ .text fosterPage parse_paragraphs plain_paragraphs
  have hdocument : ((Selector.inDocument ⟨[.compound [.name "p"]]⟩
      (Html.Page.parse fosterPage.content)).map fun s =>
        Text.trim (Extract.text.apply s.element s.children)).filter (fun v => !v.isEmpty) =
      [['2'], ['1']] := by
    rw [fosterPage.parse_eq]
    cbv
  rw [hdocument, Noted.list_fst, parse_paragraphs] at hlist
  cases fosterPage.list_eq.symm.trans (Except.ok.inj hlist)

end Rule

end ChapterAssembly
