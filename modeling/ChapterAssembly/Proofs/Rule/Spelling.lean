/-
**Rules as they are written.**

An alternative is written as a selector, perhaps an extract behind `@`, and perhaps a pattern behind
`##` with perhaps a replacement behind another `##`; alternatives stand between `||`.  Written so
that no separator comes about by itself, they are read as what they were meant to be.

Main definitions:

* `Rule.Spelling` — the parts of which an alternative is written, and `Spelling.text` — its text;
* `Rule.Spelling.Plain` — no separator comes about by itself;
* `Rule.Spelling.Targets`, `Rule.Spelling.Denotes` — the target and the alternative that are meant;
* `Rule.spelled` — the text of some alternatives.

Main results:

* `Rule.splitSubstitution_text`, `Rule.splitExtract_head` — the parts are found again;
* `Rule.alternative_parse_text` — an alternative is read as what is meant;
* `Rule.parse_spelled` — **a rule is read just if all its patterns and selectors are some, and then
  it has the alternatives that are meant**.
-/

import Mathlib.Data.List.Infix
import ChapterAssembly.Proofs.Rule.Faults
import ChapterAssembly.Proofs.Text.Cuts

set_option relaxedAutoImplicit false
set_option autoImplicit false

namespace ChapterAssembly

namespace Rule

/-! ### Spellings -/

/-- **The parts of which an alternative is written.** -/
structure Spelling where
  selector : Text
  extract? : Option Text := none
  /-- A pattern, and perhaps its replacement. -/
  rewrite? : Option (Text × Option Text) := none

namespace Spelling

/-- A selector, and an extract behind `@`. -/
def head (w : Spelling) : Text :=
  match w.extract? with
  | none => w.selector
  | some e => w.selector ++ '@' :: e

/-- A pattern behind `##`, and a replacement behind another `##`. -/
def tail (w : Spelling) : Text :=
  match w.rewrite? with
  | none => []
  | some (p, none) => ['#', '#'] ++ p
  | some (p, some r) => ['#', '#'] ++ (p ++ ['#', '#'] ++ r)

/-- The text of an alternative. -/
def text (w : Spelling) : Text := w.head ++ w.tail

/-- **No separator comes about by itself.** -/
structure Plain (w : Spelling) : Prop where
  no_bars : ¬ ['|', '|'] <:+: w.text
  bar_end : w.text.getLast? ≠ some '|'
  no_hashes : ¬ ['#', '#'] <:+: w.head
  hash_end : w.head.getLast? ≠ some '#'
  pattern : ∀ p r, w.rewrite? = some (p, r) → ¬ ['#', '#'] <:+: p ∧ p.getLast? ≠ some '#'
  extract : ∀ e, w.extract? = some e → '@' ∉ e ∧ ']' ∉ e
  /-- Without an extract, no `@` stands behind the last closing bracket, and none in a selector
  without brackets. -/
  enclosed : w.extract? = none → ∀ a b, w.selector = a ++ '@' :: b → ']' ∈ b

/-- **The target that is meant**: the page as it is, its outermost element, or what a selector
matches; without an extract, the text of that. -/
inductive Targets (w : Spelling) : Target → Prop where
  | content (hs : Text.trim w.selector = []) (he : w.extract? = none) : Targets w .content
  | root {e : Text} (hs : Text.trim w.selector = []) (he : w.extract? = some e) :
      Targets w (.root (.ofName e))
  | select {s : Selector} (hs : Text.trim w.selector ≠ [])
      (hp : Selector.parse (Text.trim w.selector) = some s) :
      Targets w (.select s ((w.extract?.map Extract.ofName).getD .text))

/-- The substitution that is meant: a missing replacement is empty. -/
inductive Rewrites (w : Spelling) : Option Substitution → Prop where
  | none (h : w.rewrite? = none) : Rewrites w none
  | some {p : Text} {r : Option Text} {regex : Regex} (h : w.rewrite? = some (p, r))
      (hp : Regex.parse p = some regex) : Rewrites w (some ⟨regex, r.getD []⟩)

/-- **The alternative that is meant.** -/
def Denotes (w : Spelling) (a : Alternative) : Prop :=
  w.Targets a.target ∧ w.Rewrites a.substitution?

/-- The patterns and selectors that are written are some. -/
def Valid (w : Spelling) : Prop :=
  (∀ p r, w.rewrite? = some (p, r) → ∃ regex, Regex.parse p = some regex) ∧
    (Text.trim w.selector ≠ [] → ∃ s, Selector.parse (Text.trim w.selector) = some s)

end Spelling

/-- The text of some alternatives. -/
def spelled (ws : List Spelling) : Text := Text.joinWith ['|', '|'] (ws.map Spelling.text)

variable {w : Spelling} {s e : Text}

/-! ### The parts of an alternative -/

/-- **The pattern and its replacement are found again.** -/
theorem splitSubstitution_text (h : w.Plain) :
    splitSubstitution w.text = (w.head, w.rewrite?.map fun pr => (pr.1, pr.2.getD [])) := by
  have hcut := Text.cutAt?_double h.no_hashes h.hash_end
  have hsep : ("##" : Text) = ['#', '#'] := rfl
  rw [splitSubstitution, hsep, Spelling.text, Spelling.tail]
  cases hr : w.rewrite? with
  | none =>
      rw [List.append_nil, Text.cutAt?_eq_none_iff.2 h.no_hashes]
      rfl
  | some pr =>
      obtain ⟨p, r⟩ := pr
      obtain ⟨hp, hp'⟩ := h.pattern p r hr
      cases r with
      | none =>
          rw [← List.append_assoc, hcut]
          simp only [Text.cutAt?_eq_none_iff.2 hp]
          rfl
      | some r =>
          rw [← List.append_assoc, hcut]
          simp only [Text.cutAt?_double hp hp']
          rfl

/-- What stands behind the last closing bracket, and what stands before that. -/
theorem exists_behind_bracket (s : Text) : ∃ a b, s = a ++ b ∧ ']' ∉ b ∧
    ∀ e : Text, ']' ∉ e → ((s ++ e).reverse.takeWhile (· != ']')).reverse = b ++ e := by
  refine ⟨(s.reverse.dropWhile (· != ']')).reverse, (s.reverse.takeWhile (· != ']')).reverse,
    ?_, ?_, ?_⟩
  · rw [← List.reverse_append, List.takeWhile_append_dropWhile, List.reverse_reverse]
  · intro h
    have := List.mem_takeWhile_imp (List.mem_reverse.1 h)
    simp at this
  · intro e he
    rw [List.reverse_append, List.takeWhile_append_of_pos (Text.forall_mem_reverse_bne he),
      List.reverse_append, List.reverse_reverse]

/-- **An extract is found behind the last `@`.** -/
theorem splitExtract_append (h : '@' ∉ e) (hb : ']' ∉ e) (s : Text) :
    splitExtract (s ++ '@' :: e) = (s, some e) := by
  obtain ⟨a, b, rfl, -, hbehind⟩ := exists_behind_bracket s
  have htail := hbehind ('@' :: e) (by simpa using hb)
  simp only [splitExtract, htail, Text.cutAtLast?_append h]
  have hlength : (a ++ b ++ '@' :: e).length - (b ++ '@' :: e).length = a.length := by
    simp only [List.length_append]
    omega
  rw [hlength, List.append_assoc, List.take_left]

/-- **A selector whose every `@` is enclosed has no extract behind it.** -/
theorem splitExtract_of_enclosed (h : ∀ a b, s = a ++ '@' :: b → ']' ∈ b) :
    splitExtract s = (s, none) := by
  obtain ⟨a, b, hs, hbracket, hbehind⟩ := exists_behind_bracket s
  have htail := hbehind [] (by simp)
  rw [List.append_nil, List.append_nil] at htail
  have hat : '@' ∉ b := by
    intro hmem
    obtain ⟨x, y, rfl⟩ := List.append_of_mem hmem
    have hy : ']' ∈ y := h (a ++ x) y (by rw [hs, List.append_assoc])
    exact hbracket (by simp [hy])
  simp only [splitExtract, htail, Text.cutAtLast?_of_notMem hat]

theorem ofName_trimEnd (e : Text) : Extract.ofName (Text.trimEnd e) = Extract.ofName e := by
  simp only [Extract.ofName, Text.trim_trimEnd]

theorem ofName_getD (extract : Option Text) :
    Extract.ofName (extract.getD []) = (extract.map Extract.ofName).getD .text := by
  cases extract <;> rfl

/-- **The selector and the extract are found again**, up to the blank characters around them. -/
theorem splitExtract_head (h : w.Plain) : ∃ selector extract,
    splitExtract (Text.trim w.head) = (selector, extract) ∧
      Text.trim selector = Text.trim w.selector ∧
      extract.map Extract.ofName = w.extract?.map Extract.ofName := by
  rw [Spelling.head]
  cases he : w.extract? with
  | none =>
      refine ⟨Text.trim w.selector, none, splitExtract_of_enclosed ?_, Text.trim_trim _, rfl⟩
      intro a b hab
      -- the blank characters around the selector are no brackets
      obtain ⟨u, v, hu, hv, hs⟩ := Text.exists_trim w.selector
      have hmem : ']' ∈ b ++ v := by
        refine h.enclosed he (u ++ a) (b ++ v) ?_
        rw [hs, hab]
        simp
      rcases List.mem_append.1 hmem with hmem | hmem
      · exact hmem
      · have hblank : Text.isBlank ']' = true := List.all_eq_true.1 hv _ hmem
        have hnot : Text.isBlank ']' = false := by decide
        rw [hnot] at hblank
        cases hblank
  | some e =>
      obtain ⟨hat, hbracket⟩ := h.extract e he
      obtain ⟨u, -, hu⟩ := Text.exists_trimEnd e
      have hat' : '@' ∉ Text.trimEnd e := fun hmem => hat (by rw [hu]; simp [hmem])
      have hbracket' : ']' ∉ Text.trimEnd e := fun hmem => hbracket (by rw [hu]; simp [hmem])
      refine ⟨Text.trimStart w.selector, some (Text.trimEnd e), ?_, Text.trim_trimStart _, ?_⟩
      · simp only
        rw [Text.trim_append_cons (by decide), splitExtract_append hat' hbracket']
      · rw [Option.map_some, Option.map_some, ofName_trimEnd]

/-! ### What is meant -/

/-- **A target is read as what is meant.** -/
theorem target_parse_head (h : w.Plain) {t : Target} :
    Target.parse w.head = .ok t ↔ w.Targets t := by
  obtain ⟨selector, extract, hsplit, hselector, hextract⟩ := splitExtract_head h
  simp only [Target.parse, hsplit, hselector, ofName_getD, hextract, List.isEmpty_iff]
  constructor
  · intro hp
    split at hp
    · next hs =>
        split at hp
        · have he : w.extract? = none := by simpa using hextract.symm
          obtain rfl := Except.ok.inj hp
          exact .content hs he
        · next x =>
            obtain ⟨e, he, hname⟩ := Option.map_eq_some_iff.1 hextract.symm
            obtain rfl := Except.ok.inj hp
            exact hname ▸ .root hs he
    · next hs =>
        split at hp
        · next s hparse =>
            obtain rfl := Except.ok.inj hp
            exact .select hs hparse
        · cases hp
  · intro ht
    cases ht with
    | content hs he =>
        obtain rfl : extract = none := by simpa [he] using hextract
        rw [if_pos hs]
    | @root e hs he =>
        obtain ⟨x, rfl, hname⟩ : ∃ x, extract = some x ∧ Extract.ofName x = Extract.ofName e := by
          simpa [he] using hextract
        rw [if_pos hs, ← hname]
    | select hs hp =>
        rw [if_neg hs]
        simp only [hp]

/-- **An alternative is read as what is meant.** -/
theorem alternative_parse_text (h : w.Plain) {a : Alternative} :
    Alternative.parse w.text = .ok a ↔ w.Denotes a := by
  obtain ⟨target, substitution?⟩ := a
  -- the substitution is settled before the head is read
  have hread : ∀ found : Option Substitution, (w.Rewrites substitution? ↔ substitution? = found) →
      ((Target.parse w.head).map (fun target => Alternative.mk target found) =
        .ok ⟨target, substitution?⟩ ↔ w.Denotes ⟨target, substitution?⟩) := by
    intro found hfound
    rw [Spelling.Denotes, hfound, ← target_parse_head h]
    cases Target.parse w.head <;> simp [Except.map, eq_comm]
  rw [Alternative.parse, splitSubstitution_text h]
  cases hr : w.rewrite? with
  | none =>
      refine hread none ⟨fun hw => ?_, fun heq => heq ▸ .none hr⟩
      cases hw with
      | none => rfl
      | some h' => simp [hr] at h'
  | some pr =>
      obtain ⟨p, r⟩ := pr
      simp only [Option.map_some, Substitution.parse]
      cases hp : Regex.parse p with
      | none =>
          constructor
          · intro herror
            cases herror
          · rintro ⟨-, hw⟩
            cases hw with
            | none h' => simp [hr] at h'
            | some h' hp' =>
                obtain ⟨rfl, rfl⟩ : p = _ ∧ r = _ := by simpa [hr] using h'
                simp [hp] at hp'
      | some regex =>
          refine hread (some ⟨regex, r.getD []⟩) ⟨fun hw => ?_, fun heq => heq ▸ .some hr hp⟩
          cases hw with
          | none h' => simp [hr] at h'
          | some h' hp' =>
              obtain ⟨rfl, rfl⟩ : p = _ ∧ r = _ := by simpa [hr] using h'
              obtain rfl := Option.some.inj (hp.symm.trans hp')
              rfl

/-- An alternative is meant just if its pattern and its selector are some. -/
theorem Spelling.exists_denotes_iff : (∃ a, w.Denotes a) ↔ w.Valid := by
  constructor
  · rintro ⟨⟨target, substitution?⟩, ht, hr⟩
    constructor
    · intro p r hpr
      cases hr with
      | none h => simp [hpr] at h
      | @some p' r' regex h hp =>
          obtain ⟨rfl, rfl⟩ : p = p' ∧ r = r' := by simpa [hpr] using h
          exact ⟨regex, hp⟩
    · intro hne
      cases ht with
      | content hs | root hs => exact absurd hs hne
      | @select s _ hp => exact ⟨s, hp⟩
  · rintro ⟨hrewrite, hselector⟩
    obtain ⟨target, ht⟩ : ∃ target, w.Targets target := by
      by_cases hs : Text.trim w.selector = []
      · cases he : w.extract? with
        | none => exact ⟨_, .content hs he⟩
        | some e => exact ⟨_, .root hs he⟩
      · obtain ⟨s, hp⟩ := hselector hs
        exact ⟨_, .select hs hp⟩
    cases hr : w.rewrite? with
    | none => exact ⟨⟨target, none⟩, ht, .none hr⟩
    | some pr =>
        obtain ⟨p, r⟩ := pr
        obtain ⟨regex, hp⟩ := hrewrite p r hr
        exact ⟨⟨target, some ⟨regex, r.getD []⟩⟩, ht, .some hr hp⟩

/-! ### Rules -/

variable {ws : List Spelling}

/-- The alternatives of a rule are found again. -/
theorem splitOnText_spelled (hne : ws ≠ []) (h : ∀ w ∈ ws, w.Plain) :
    Text.splitOnText "||" (spelled ws) = ws.map Spelling.text := by
  refine Text.splitOnText_joinWith (by simpa using hne) ?_ ?_
  · exact List.forall_mem_map.2 fun w hw => (h w hw).no_bars
  · exact List.forall_mem_map.2 fun w hw => (h w hw).bar_end

/-- A rule is read as the alternatives that are meant. -/
theorem parse_spelled_eq_ok_iff (h : ∀ w ∈ ws, w.Plain)
    (hblank : Text.isBlankText (spelled ws) = false) {r : Rule} :
    parse (spelled ws) = .ok r ↔ List.Forall₂ Spelling.Denotes ws r.alternatives := by
  have hne : ws ≠ [] := by
    rintro rfl
    cases hblank
  rw [parse_eq_ok_iff, splitOnText_spelled hne h, List.forall₂_map_left_iff]
  refine (and_iff_right hblank).trans ⟨fun hr => ?_, fun hr => ?_⟩
  · refine ((List.forall₂_and_left ws r.alternatives).2 ⟨h, hr⟩).imp ?_
    exact fun w a hwa => (alternative_parse_text hwa.1).1 hwa.2
  · refine ((List.forall₂_and_left ws r.alternatives).2 ⟨h, hr⟩).imp ?_
    exact fun w a hwa => (alternative_parse_text hwa.1).2 hwa.2

theorem exists_forall₂_denotes_iff :
    (∃ alternatives, List.Forall₂ Spelling.Denotes ws alternatives) ↔ ∀ w ∈ ws, w.Valid := by
  simp only [← Spelling.exists_denotes_iff]
  induction ws with
  | nil => simp
  | cons w ws ih =>
      rw [List.forall_mem_cons, ← ih]
      constructor
      · rintro ⟨_, hr⟩
        cases hr with
        | cons ha hrest => exact ⟨⟨_, ha⟩, _, hrest⟩
      · rintro ⟨⟨a, ha⟩, alternatives, hrest⟩
        exact ⟨a :: alternatives, .cons ha hrest⟩

/-- **A rule is read just if all its patterns and selectors are some, and then it has the
alternatives that are meant**, in their order. -/
theorem parse_spelled (h : ∀ w ∈ ws, w.Plain) (hblank : Text.isBlankText (spelled ws) = false) :
    ((∃ r, parse (spelled ws) = .ok r) ↔ ∀ w ∈ ws, w.Valid) ∧
      ∀ r, parse (spelled ws) = .ok r → List.Forall₂ Spelling.Denotes ws r.alternatives := by
  refine ⟨?_, fun r => (parse_spelled_eq_ok_iff h hblank).1⟩
  rw [← exists_forall₂_denotes_iff]
  constructor
  · rintro ⟨r, hr⟩
    exact ⟨r.alternatives, (parse_spelled_eq_ok_iff h hblank).1 hr⟩
  · rintro ⟨alternatives, hr⟩
    exact ⟨⟨alternatives⟩, (parse_spelled_eq_ok_iff h hblank).2 hr⟩

/-- A selector with an `@` in brackets, and a pattern that begins with a number sign. -/
def Spelling.bracketed : Spelling where
  selector := "a[b='@']"
  rewrite? := some ("#x", some "##")

theorem Spelling.plain_bracketed : Spelling.bracketed.Plain where
  no_bars := by decide
  bar_end := by decide
  no_hashes := by decide
  hash_end := by decide
  pattern := by
    rintro p r ⟨⟩
    decide
  extract := by
    intro e he
    cases he
  enclosed := by
    -- the text ends with a bracket, and so does what stands behind the `@`
    intro _ a b h
    have hlast : bracketed.selector.getLast? = some ']' := by decide
    rw [h, List.getLast?_append] at hlast
    cases b with
    | nil => simp at hlast
    | cons c b => exact List.mem_of_getLast? (by simpa using hlast)

/-- The outermost element of a page, with a blank in front. -/
def Spelling.outermost : Spelling where
  selector := " "
  extract? := some "html"

theorem Spelling.plain_outermost : Spelling.outermost.Plain where
  no_bars := by decide
  bar_end := by decide
  no_hashes := by decide
  hash_end := by decide
  pattern := by
    intro p r h
    cases h
  extract := by
    intro e he
    obtain rfl : e = ("html" : Text) := (Option.some.inj he).symm
    decide
  enclosed := by
    intro he
    cases he

/-- Number signs of the pattern and of the replacement stand behind those that separate them. -/
theorem parse_spelled_bracketed :
    spelled [.bracketed, .outermost] = "a[b='@']###x####|| @html" ∧
    ∃ r, parse "a[b='@']###x####|| @html" = .ok r ∧
      List.Forall₂ Spelling.Denotes [.bracketed, .outermost] r.alternatives := by
  have hplain : ∀ w ∈ [Spelling.bracketed, .outermost], w.Plain := by
    simp [Spelling.plain_bracketed, Spelling.plain_outermost]
  obtain ⟨hread, hmeant⟩ := parse_spelled hplain (by decide)
  have hvalid : ∀ w ∈ [Spelling.bracketed, .outermost], w.Valid := by
    have hregex : (Regex.parse "#x").isSome = true := by decide +kernel
    have hselector : (Selector.parse (Text.trim Spelling.bracketed.selector)).isSome = true := by
      decide +kernel
    refine List.forall_mem_cons.2 ⟨⟨?_, ?_⟩, List.forall_mem_singleton.2 ⟨?_, ?_⟩⟩
    · rintro p r ⟨⟩
      exact Option.isSome_iff_exists.1 hregex
    · exact fun _ => Option.isSome_iff_exists.1 hselector
    · rintro p r ⟨⟩
    · exact fun hne => absurd (by decide) hne
  obtain ⟨r, hr⟩ := hread.2 hvalid
  exact ⟨rfl, r, hr, hmeant r hr⟩

end Rule

end ChapterAssembly
