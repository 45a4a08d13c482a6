/-
**Image elements at the end of titles.**

A title may end in an image element: `<img`, a blank character, attributes without a `>`, among them
a source, and the `>` that ends the text.  The element is looked for from the left and the source in
it as well, so what is found depends on what stands in front of either.  A text that is put together
by these rules is taken apart as it was put together, and whatever is taken apart has a source that
an address can be.

Main definitions:

* `ImageMarker.Spells` — a keyword in whatever case it is written;
* `ImageMarker.Lacks`, `ImageMarker.Ended` — what must not stand in front of a keyword;
* `ImageMarker.Marker` — **a title with an image element at its end**, written out;
* `Resolver.FindsTitle` — what the title rule finds on a page;
* `Resolution.Decodes` — what is promised of the title and the image of a chapter.

Main results:

* `ImageMarker.Spells.inside` — two keywords do not overlap;
* `ImageMarker.read?_text` — **a marker is read back**;
* `ImageMarker.isSourceChar_of_read?` — of which characters an image consists;
* `Resolver.titleFrom_decodes` — what becomes of a title, whatever evaluates the title rule;
* `resolveTitle_decodes` — **every title rule is decoded so on every page**.
-/

import ChapterAssembly.Proofs.Run.Resolver
import ChapterAssembly.Proofs.Text.Cuts

set_option relaxedAutoImplicit false
set_option autoImplicit false

namespace ChapterAssembly

namespace Content

namespace ImageMarker

/-! ### Keywords -/

/-- A text is a keyword, in whatever case it is written. -/
def Spells (word t : Text) : Prop := List.Forall₂ (fun letter c => isLetter letter c = true) word t

/-- A keyword occurs nowhere in a text. -/
def Lacks (word t : Text) : Prop := ∀ a k b, t = a ++ k ++ b → ¬ Spells word k

section

variable {word t a k k' z rest : Text} {l l' c : Char}

/-- A character is a letter of one kind only. -/
theorem isLetter_inj (hl : l ≠ '\u017F') (hl' : l' ≠ '\u017F') (h : isLetter l c = true)
    (h' : isLetter l' c = true) : l = l' := by
  have hlong : Char.toLower '\u017F' = '\u017F' := by decide
  simp only [isLetter, Bool.or_eq_true, Bool.and_eq_true, beq_iff_eq] at h h'
  rcases h with h | ⟨rfl, rfl⟩
  · rcases h' with h' | ⟨-, rfl⟩
    · exact h.symm.trans h'
    · exact absurd (h.symm.trans hlong) hl
  · rcases h' with h' | ⟨rfl, -⟩
    · exact absurd (h'.symm.trans hlong) hl'
    · rfl

theorem toLower_of_isBlank (h : Text.isBlank c = true) : c.toLower = c := by
  simp only [Text.isBlank, Bool.or_eq_true, Bool.and_eq_true, decide_eq_true_eq, beq_iff_eq,
    Char.toNat] at h
  unfold Char.toLower
  rw [dif_neg]
  rintro ⟨hlow, hhigh⟩
  have hlow : 65 ≤ c.val.toNat := hlow
  have hhigh : c.val.toNat ≤ 90 := hhigh
  omega

/-- The letters of a keyword are not blank. -/
theorem isBlank_of_isLetter (hl : Text.isBlank l = false) (h : isLetter l c = true) :
    Text.isBlank c = false := by
  simp only [isLetter, Bool.or_eq_true, Bool.and_eq_true, beq_iff_eq] at h
  rcases h with h | ⟨-, rfl⟩
  · by_contra hblank
    have hsame : c.toLower = c := toLower_of_isBlank (by simpa using hblank)
    rw [hsame] at h
    simp [h, hl] at hblank
  · decide

theorem Spells.exists_letter (h : Spells word t) (hc : c ∈ t) :
    ∃ letter ∈ word, isLetter letter c = true := by
  induction h with
  | nil => cases hc
  | @cons letter d word t hd _ ih =>
      rcases List.mem_cons.1 hc with rfl | hc
      · exact ⟨letter, by simp, hd⟩
      · obtain ⟨letter', hmem, hletter⟩ := ih hc
        exact ⟨letter', List.mem_cons_of_mem _ hmem, hletter⟩

/-- What follows a keyword at the start of a text. -/
theorem afterKeyword?_eq_some_iff :
    afterKeyword? word t = some rest ↔ ∃ k, Spells word k ∧ t = k ++ rest := by
  induction word generalizing t with
  | nil =>
      rw [afterKeyword?, Option.some.injEq]
      constructor
      · rintro rfl
        exact ⟨[], .nil, rfl⟩
      · rintro ⟨k, hk, rfl⟩
        cases hk
        rfl
  | cons letter word ih =>
      cases t with
      | nil =>
          constructor
          · intro h
            cases h
          · rintro ⟨k, hk, h⟩
            cases hk
            cases h
      | cons c t =>
          rw [afterKeyword?]
          constructor
          · intro h
            by_cases hc : isLetter letter c = true
            · rw [if_pos hc] at h
              obtain ⟨k, hk, rfl⟩ := ih.1 h
              exact ⟨c :: k, .cons hc hk, rfl⟩
            · rw [if_neg hc] at h
              cases h
          · rintro ⟨k, hk, h⟩
            cases hk with
            | cons hc hk =>
                cases h
                rw [if_pos hc]
                exact ih.2 ⟨_, hk, rfl⟩

/-- The bracket of an element has no other case. -/
theorem eq_of_isLetter_less (h : isLetter '<' c = true) : c = '<' := by
  have hlower : c.toLower = '<' := by simpa [isLetter] using h
  unfold Char.toLower at hlower
  split at hlower
  · next hupper =>
      -- a capital letter would become a small one
      obtain ⟨hlow, hhigh⟩ := hupper
      have hlow : 65 ≤ c.toNat := hlow
      have hhigh : c.toNat ≤ 90 := hhigh
      have hsum : (c.val + ('a'.val - 'A'.val)).toNat = 60 :=
        congrArg (fun d : Char => d.val.toNat) hlower
      rw [UInt32.toNat_add] at hsum
      simp at hsum
      omega
  · exact hlower

/-- A keyword has no place in the empty text. -/
theorem lacks_nil (hne : word ≠ []) : Lacks word [] := by
  intro a k b h hk
  obtain ⟨-, rfl, -⟩ : a = [] ∧ k = [] ∧ b = [] := by simpa using h.symm
  cases hk
  exact hne rfl

/-- **Two keywords do not overlap**: what starts in front of one, with different letters, ends in
front of it. -/
theorem Spells.inside (hnodup : word.Nodup) (hlong : '\u017F' ∉ word) (hk : Spells word k)
    (hk' : Spells word k') (ha : a ≠ []) (h : a ++ (k ++ z) = k' ++ rest) : ∃ b, a = k' ++ b := by
  rcases List.append_eq_append_iff.1 h with ⟨b, rfl, hb⟩ | ⟨b, hb, -⟩
  · cases b with
    | nil => exact ⟨[], by simp⟩
    | cons c b =>
        -- the first letter of one keyword would stand further back in the other
        exfalso
        cases hk with
        | nil =>
            cases a with
            | nil => exact ha rfl
            | cons => cases hk'
        | @cons first d others k hfirst hothers =>
            obtain ⟨rfl, -⟩ : d = c ∧ _ := by simpa using hb
            cases a with
            | nil => exact ha rfl
            | cons e a =>
                obtain ⟨-, hrest⟩ := List.forall₂_cons.1 hk'
                obtain ⟨letter, hmem, hletter⟩ := Spells.exists_letter hrest (c := d) (by simp)
                have hne : ∀ l ∈ first :: others, l ≠ '\u017F' := fun l hl heq =>
                  hlong (heq ▸ hl)
                obtain rfl := isLetter_inj (hne first (by simp))
                  (hne letter (List.mem_cons_of_mem _ hmem)) hfirst hletter
                exact (List.nodup_cons.1 hnodup).1 hmem
  · exact ⟨b, hb⟩

end

/-! ### Sources -/

section

variable {lead name quote source rest t v z : Text} {c : Char}

theorem isSourceChar_iff : isSourceChar c = true ↔
    c ≠ '"' ∧ c ≠ '\'' ∧ c ≠ '>' ∧ Text.isBlank c = false := by
  simp [isSourceChar, and_assoc]

/-- A source is read up to what cannot belong to it. -/
theorem takeWhile_source (h : ∀ c ∈ source, isSourceChar c = true) (rest : Text)
    (hrest : ∀ c ∈ rest.head?, isSourceChar c = false) :
    (source ++ rest).takeWhile isSourceChar = source := by
  rw [List.takeWhile_append_of_pos h]
  cases rest with
  | nil => simp
  | cons c rest =>
      have hc : isSourceChar c = false := hrest c rfl
      simp [hc]

/-- **A source is read back**, with quotes around it or without. -/
theorem value?_eq_some (hquote : quote = [] ∨ quote = ['"'] ∨ quote = ['\''])
    (hne : source ≠ []) (h : ∀ c ∈ source, isSourceChar c = true)
    (hrest : quote = [] → ∀ c ∈ rest.head?, Text.isBlank c = true) :
    value? ('=' :: (quote ++ (source ++ (quote ++ rest)))) = some source := by
  have hequals : Text.trimStart ('=' :: (quote ++ (source ++ (quote ++ rest)))) =
      '=' :: (quote ++ (source ++ (quote ++ rest))) :=
    Text.trimStart_cons_of_not_isBlank (by decide)
  have hempty : source.isEmpty = false := by simpa using hne
  rw [value?, hequals]
  rcases hquote with rfl | rfl | rfl
  case inl =>
    -- the source itself stands behind the equals sign, and begins with no quote
    obtain ⟨d, ds, rfl⟩ := List.exists_cons_of_ne_nil hne
    obtain ⟨hdouble, hsingle, -, hblank⟩ := isSourceChar_iff.1 (h d (by simp))
    have hstart : Text.trimStart (d :: (ds ++ rest)) = d :: (ds ++ rest) :=
      Text.trimStart_cons_of_not_isBlank hblank
    have htake := takeWhile_source h rest (by
      intro c hc
      by_contra hsource
      obtain ⟨-, -, -, hblank⟩ := isSourceChar_iff.1 (by simpa using hsource)
      simp [hrest rfl c hc] at hblank)
    simp only [List.nil_append, List.cons_append, hstart] at htake ⊢
    split
    · next heq => exact absurd (List.cons.inj heq).1 hdouble
    · next heq => exact absurd (List.cons.inj heq).1 hsingle
    · simp [htake]
  case inr.inl =>
    have hstart : Text.trimStart ('"' :: (source ++ '"' :: rest)) =
        '"' :: (source ++ '"' :: rest) := Text.trimStart_cons_of_not_isBlank (by decide)
    have htake := takeWhile_source h ('"' :: rest) (by simp [isSourceChar])
    simp only [List.cons_append, List.nil_append, hstart, htake, hempty, Bool.false_eq_true,
      if_false]
  case inr.inr =>
    have hstart : Text.trimStart ('\'' :: (source ++ '\'' :: rest)) =
        '\'' :: (source ++ '\'' :: rest) := Text.trimStart_cons_of_not_isBlank (by decide)
    have htake := takeWhile_source h ('\'' :: rest) (by simp [isSourceChar])
    simp only [List.cons_append, List.nil_append, hstart, htake, hempty, Bool.false_eq_true,
      if_false]

/-- **The first source among some attributes is found**, whatever stands around it. -/
theorem source?_eq_some (hlead : Lacks "src" lead) (hname : Spells "src" name)
    (hz : value? z = some v) : source? (lead ++ (name ++ z)) = some v := by
  induction lead with
  | nil =>
      have hkey : afterKeyword? "src" (name ++ z) = some z :=
        afterKeyword?_eq_some_iff.2 ⟨name, hname, rfl⟩
      cases hname with
      | cons =>
          rw [List.nil_append, List.cons_append, source?]
          rw [List.cons_append] at hkey
          rw [hkey, Option.bind_some, hz]
  | cons c lead ih =>
      -- a source that starts here would end in front of the one that is meant
      have hkey : afterKeyword? "src" (c :: (lead ++ (name ++ z))) = none := by
        by_contra hne
        obtain ⟨after, hafter⟩ := Option.ne_none_iff_exists'.1 hne
        obtain ⟨k, hk, heq⟩ := afterKeyword?_eq_some_iff.1 hafter
        have hinside : ∃ b, c :: lead = k ++ b :=
          hname.inside (by decide) (by decide) hk (List.cons_ne_nil c lead) heq
        obtain ⟨b, hb⟩ := hinside
        exact hlead [] k b (by simpa using hb) hk
      have hrest : Lacks "src" lead := by
        intro a k b heq
        exact hlead (c :: a) k b (by simp [heq])
      rw [List.cons_append, source?, hkey, Option.bind_none]
      exact ih hrest

theorem isSourceChar_of_value? (h : value? t = some v) :
    v ≠ [] ∧ ∀ c ∈ v, isSourceChar c = true := by
  have htaken : ∀ s : Text, (if (s.takeWhile isSourceChar).isEmpty then none
      else some (s.takeWhile isSourceChar)) = some v →
      v ≠ [] ∧ ∀ c ∈ v, isSourceChar c = true := by
    intro s hs
    by_cases hne : (s.takeWhile isSourceChar).isEmpty = true
    · rw [if_pos hne] at hs
      cases hs
    · rw [if_neg hne] at hs
      obtain rfl := Option.some.inj hs
      exact ⟨by simpa using hne, fun c hc => List.mem_takeWhile_imp hc⟩
  unfold value? at h
  split at h
  · split at h <;> exact htaken _ h
  · cases h

/-- Whatever is read as a source consists of the characters of one. -/
theorem isSourceChar_of_source? (h : source? t = some v) :
    v ≠ [] ∧ ∀ c ∈ v, isSourceChar c = true := by
  induction t with
  | nil => cases h
  | cons c t ih =>
      rw [source?] at h
      split at h
      · next hkey =>
          obtain rfl := Option.some.inj h
          obtain ⟨after, -, hafter⟩ := Option.bind_eq_some_iff.1 hkey
          exact isSourceChar_of_value? hafter
      · exact ih h

end

/-! ### Image elements -/

/-- In a text no image element has been begun without being ended: every `<img` with a blank
character behind it has a `>` behind that. -/
def Ended (t : Text) : Prop :=
  ∀ a k c b, t = a ++ k ++ c :: b → Spells "<img" k → Text.isBlank c = true → '>' ∈ b

theorem ended_of_notMem {t : Text} (h : '<' ∉ t) : Ended t := by
  rintro a k c b rfl hk -
  cases hk with
  | cons hless =>
      obtain rfl := eq_of_isLetter_less hless
      simp at h

/-- **A title with an image element at its end**, written out. -/
structure Marker where
  /-- What stands before the element. -/
  before : Text
  tag : Text
  blank : Char
  /-- What stands before the source among the attributes. -/
  lead : Text
  name : Text
  quote : Text
  source : Text
  /-- What stands behind the source. -/
  rest : Text
  before_ended : Ended before
  tag_spells : Spells "<img" tag
  isBlank_blank : Text.isBlank blank = true
  lead_open : '>' ∉ lead
  lead_lacks : Lacks "src" lead
  name_spells : Spells "src" name
  quote_cases : quote = [] ∨ quote = ['"'] ∨ quote = ['\'']
  source_ne_nil : source ≠ []
  isSourceChar_source : ∀ c ∈ source, isSourceChar c = true
  rest_open : '>' ∉ rest
  /-- A source without quotes goes up to a blank character, or to the end of the element. -/
  rest_apart : quote = [] → ∀ c ∈ rest.head?, Text.isBlank c = true

namespace Marker

/-- A marker that says its source and nothing else: `<img src=…>` behind a text. -/
def plain (before : Text) (hbefore : Ended before) (quote : Text)
    (hquote : quote = [] ∨ quote = ['"'] ∨ quote = ['\'']) (source : Text) (hne : source ≠ [])
    (hsource : ∀ c ∈ source, isSourceChar c = true) : Marker where
  before := before
  tag := "<img"
  blank := ' '
  lead := []
  name := "src"
  quote := quote
  source := source
  rest := []
  before_ended := hbefore
  tag_spells := .cons rfl (.cons rfl (.cons rfl (.cons rfl .nil)))
  isBlank_blank := by decide
  lead_open := by simp
  lead_lacks := lacks_nil (by simp)
  name_spells := .cons rfl (.cons rfl (.cons rfl .nil))
  quote_cases := hquote
  source_ne_nil := hne
  isSourceChar_source := hsource
  rest_open := by simp
  rest_apart := by simp

variable (m : Marker)

/-- The attributes of the image. -/
def attributes : Text := m.lead ++ (m.name ++ '=' :: (m.quote ++ (m.source ++ (m.quote ++ m.rest))))

/-- The title as it is written. -/
def text : Text := m.before ++ m.tag ++ m.blank :: m.attributes ++ ['>']

/-- The attributes do not end the element. -/
theorem notMem_attributes : '>' ∉ m.attributes := by
  have hname : '>' ∉ m.name := by
    intro hmem
    obtain ⟨letter, hletter, h⟩ := m.name_spells.exists_letter hmem
    have hcases : letter = 's' ∨ letter = 'r' ∨ letter = 'c' := by simpa using hletter
    rcases hcases with rfl | rfl | rfl <;> cases h
  have hquote : '>' ∉ m.quote := by
    rcases m.quote_cases with h | h | h <;> simp [h]
  have hsource : '>' ∉ m.source := by
    intro hmem
    exact (isSourceChar_iff.1 (m.isSourceChar_source _ hmem)).2.2.1 rfl
  simp [attributes, m.lead_open, hname, hquote, hsource, m.rest_open]

theorem source?_attributes : source? m.attributes = some m.source := by
  have hvalue : value? ('=' :: (m.quote ++ (m.source ++ (m.quote ++ m.rest)))) = some m.source :=
    value?_eq_some m.quote_cases m.source_ne_nil m.isSourceChar_source m.rest_apart
  exact source?_eq_some m.lead_lacks m.name_spells hvalue

/-- The element is read where it starts. -/
theorem element?_eq : element? (m.tag ++ m.blank :: m.attributes) = some m.source := by
  have hkey : afterKeyword? "<img" (m.tag ++ m.blank :: m.attributes) =
      some (m.blank :: m.attributes) := afterKeyword?_eq_some_iff.2 ⟨m.tag, m.tag_spells, rfl⟩
  have hopen : m.attributes.contains '>' = false := by simpa using m.notMem_attributes
  simp only [element?, hkey, m.isBlank_blank, hopen, Bool.not_false, Bool.and_self, if_true]
  exact m.source?_attributes

/-- The element starts with a character that is not blank. -/
theorem exists_tag : ∃ c tag, m.tag = c :: tag ∧ Text.isBlank c = false := by
  have hspells := m.tag_spells
  cases htag : m.tag with
  | nil =>
      rw [htag] at hspells
      cases hspells
  | cons c tag =>
      rw [htag] at hspells
      refine ⟨c, tag, rfl, ?_⟩
      obtain ⟨hc, -⟩ := List.forall₂_cons.1 hspells
      exact isBlank_of_isLetter (by decide) hc

/-- **No element is read before it**, from where another one has been ended. -/
theorem element?_eq_none {c : Char} {b : Text} (hended : Ended (c :: b)) :
    element? (c :: (b ++ (m.tag ++ m.blank :: m.attributes))) = none := by
  unfold element?
  split
  · next d attributes hkey =>
      obtain ⟨k, hk, heq⟩ := afterKeyword?_eq_some_iff.1 hkey
      have hinside : ∃ b', c :: b = k ++ b' :=
        m.tag_spells.inside (by decide) (by decide) hk (List.cons_ne_nil c b) heq
      obtain ⟨b', hb'⟩ := hinside
      rw [if_neg]
      rw [Bool.and_eq_true, Bool.not_eq_true', not_and, Bool.not_eq_false]
      intro hd
      -- what follows the keyword is in front of the element, so it ends what is begun here
      have hafter : b' ++ (m.tag ++ m.blank :: m.attributes) = d :: attributes := by
        rw [← List.cons_append, hb', List.append_assoc] at heq
        exact List.append_cancel_left heq
      cases b' with
      | nil =>
          -- nothing stands between the keywords, but no keyword starts with a blank character
          obtain ⟨e, tag, htag, he⟩ := m.exists_tag
          rw [htag] at hafter
          obtain rfl : e = d := (List.cons.inj hafter).1
          simp [he] at hd
      | cons e b' =>
          obtain ⟨rfl, rfl⟩ := List.cons.inj hafter
          have hmem := hended [] k e b' (by simpa using hb') hk hd
          simp [hmem]
  · rfl

/-- The element is found behind whatever stands before it. -/
theorem split?_eq {before : Text} (hended : Ended before) :
    split? (before ++ (m.tag ++ m.blank :: m.attributes)) = some (before, m.source) := by
  induction before with
  | nil =>
      obtain ⟨c, tag, htag, -⟩ := m.exists_tag
      have helement := m.element?_eq
      rw [htag, List.cons_append] at helement
      rw [List.nil_append, htag, List.cons_append, split?, helement]
  | cons c b ih =>
      have hrest : Ended b := by
        intro a k d b' heq
        exact hended (c :: a) k d b' (by simp [heq])
      rw [List.cons_append, split?, m.element?_eq_none hended, ih hrest]
      rfl

/-- **A marker is read back.** -/
theorem read?_text : read? m.text = some (Text.trim m.before, m.source) := by
  have hlast : m.text.getLast? = some '>' := List.getLast?_concat
  have hdrop : m.text.dropLast = m.before ++ (m.tag ++ m.blank :: m.attributes) := by
    rw [text, List.dropLast_concat, List.append_assoc]
  rw [read?, if_pos hlast, hdrop, m.split?_eq m.before_ended]
  rfl

end Marker

/-- Whatever is read as an image has a source that is not empty, of the characters of one. -/
theorem isSourceChar_of_read? {t title image : Text} (h : read? t = some (title, image)) :
    image ≠ [] ∧ ∀ c ∈ image, isSourceChar c = true := by
  have helement : ∀ {t : Text}, element? t = some image →
      image ≠ [] ∧ ∀ c ∈ image, isSourceChar c = true := by
    intro t h
    unfold element? at h
    split at h
    · split at h
      · exact isSourceChar_of_source? h
      · cases h
    · cases h
  have hsplit : ∀ {t before : Text}, split? t = some (before, image) →
      image ≠ [] ∧ ∀ c ∈ image, isSourceChar c = true := by
    intro t before h
    induction t generalizing before with
    | nil => cases h
    | cons c t ih =>
        rw [split?] at h
        split at h
        · next hhere =>
            obtain ⟨-, rfl⟩ := Prod.mk.inj (Option.some.inj h)
            exact helement hhere
        · obtain ⟨⟨b, v⟩, hb, heq⟩ := Option.map_eq_some_iff.1 h
          obtain ⟨-, rfl⟩ := Prod.mk.inj heq
          exact ih hb
  unfold read? at h
  split at h
  · obtain ⟨⟨b, v⟩, hb, heq⟩ := Option.map_eq_some_iff.1 h
    obtain ⟨-, rfl⟩ := Prod.mk.inj heq
    exact hsplit hb
  · cases h

/-- What does not end in a `>` is no marker. -/
theorem read?_eq_none {t : Text} (h : t.getLast? ≠ some '>') : read? t = none := by
  rw [read?, if_neg h]

/-- The title of a marker is trimmed. -/
theorem exists_trim_of_read? {t title image : Text} (h : read? t = some (title, image)) :
    ∃ before, title = Text.trim before := by
  unfold read? at h
  split at h
  · obtain ⟨⟨b, v⟩, -, heq⟩ := Option.map_eq_some_iff.1 h
    obtain ⟨rfl, -⟩ := Prod.mk.inj heq
    exact ⟨b, rfl⟩
  · cases h

end ImageMarker

/-! ### Titles -/

/-- What an evaluator finds by the title rule of a source. -/
def Resolver.FindsTitle (e : Resolver) (rules : RuleSet) (page : Rule.Context) (found : Text) :
    Prop :=
  ∃ rule, RuleSet.given rules.title = some rule ∧ e.string rule page = .ok found

section

variable (e : Resolver) (rules : RuleSet) (page : Rule.Context) (current : Text)

/-- **What is promised of the title and the image of a chapter**, with the current title and what
the title rule finds. -/
structure Resolution.Decodes (r : Resolution) : Prop where
  /-- A marker gives the image, and the title unless that is blank. -/
  marked : ∀ (found : Text) (m : ImageMarker.Marker), e.FindsTitle rules page found →
    Text.trim found = m.text → r = {
      title := if Text.isBlankText m.before then current else Text.trim m.before
      image := some m.source }
  /-- What ends in no element is the title as it is. -/
  plain : ∀ found, e.FindsTitle rules page found → Text.isBlankText found = false →
    (Text.trim found).getLast? ≠ some '>' → r = { title := Text.trim found }
  /-- Where nothing is found, the current title stays. -/
  unfound : (∀ found, e.FindsTitle rules page found → Text.isBlankText found = true) →
    r = { title := current }
  /-- No title becomes blank. -/
  title : Text.isBlankText r.title = true → Text.isBlankText current = true
  /-- An image is an address, as far as characters go. -/
  image : ∀ u, r.image = some u → u ≠ [] ∧
    ∀ c ∈ u, c ≠ '"' ∧ c ≠ '\'' ∧ c ≠ '>' ∧ Text.isBlank c = false

end

section

variable {e : Resolver} {rules : RuleSet} {page : Rule.Context} {current found : Text}

theorem Resolver.titleFrom_of_found (h : e.FindsTitle rules page found) :
    e.titleFrom rules page current =
      if Text.isBlankText found then { title := current }
      else .ofText current (Text.trim found) := by
  obtain ⟨rule, hrule, hfound⟩ := h
  simp only [titleFrom, hrule, hfound, Text.isEmpty_trim]

/-- Without a title rule, or where it fails, nothing is found. -/
theorem Resolver.titleFrom_of_unfound (h : ∀ found, ¬ e.FindsTitle rules page found) :
    e.titleFrom rules page current = { title := current } := by
  unfold titleFrom
  split
  · rfl
  · next rule hrule =>
      split
      · rfl
      · next found hfound => exact absurd ⟨rule, hrule, hfound⟩ (h found)

/-- There is one text at most that a title rule finds. -/
theorem Resolver.FindsTitle.unique {found' : Text} (h : e.FindsTitle rules page found)
    (h' : e.FindsTitle rules page found') : found = found' := by
  obtain ⟨rule, hrule, hfound⟩ := h
  obtain ⟨rule', hrule', hfound'⟩ := h'
  obtain rfl := Option.some.inj (hrule.symm.trans hrule')
  exact Except.ok.inj (hfound.symm.trans hfound')

namespace Resolution

/-- A marker gives its image, and its title unless that is blank. -/
theorem ofText_marker (m : ImageMarker.Marker) (current : Text) : ofText current m.text =
    { title := if Text.isBlankText m.before then current else Text.trim m.before
      image := some m.source } := by
  simp only [ofText, m.read?_text, Text.isEmpty_trim]

/-- What is not blank gives a title that is not, unless the current one is. -/
theorem isBlankText_ofText (hfound : Text.isBlankText found = false)
    (h : Text.isBlankText (ofText current found).title = true) :
    Text.isBlankText current = true := by
  unfold ofText at h
  split at h
  · next title image hread =>
      obtain ⟨before, rfl⟩ := ImageMarker.exists_trim_of_read? hread
      rw [Text.isEmpty_trim] at h
      by_cases hblank : Text.isBlankText before = true
      · simpa [hblank] using h
      · simp only [hblank, Bool.false_eq_true, if_false] at h
        rw [← Text.trim_eq_nil_iff, Text.trim_trim, Text.trim_eq_nil_iff] at h
        exact absurd h hblank
  · simp [hfound] at h

theorem image_ofText {u : Text} (h : (ofText current found).image = some u) : u ≠ [] ∧
    ∀ c ∈ u, c ≠ '"' ∧ c ≠ '\'' ∧ c ≠ '>' ∧ Text.isBlank c = false := by
  unfold ofText at h
  split at h
  · next title image hread =>
      obtain rfl : image = u := Option.some.inj h
      obtain ⟨hne, hchars⟩ := ImageMarker.isSourceChar_of_read? hread
      exact ⟨hne, fun c hc => ImageMarker.isSourceChar_iff.1 (hchars c hc)⟩
  · cases h

end Resolution

/-! ### Every title rule -/

/-- **What becomes of a title**, whatever evaluates the title rule. -/
theorem Resolver.titleFrom_decodes (e : Resolver) (rules : RuleSet) (page : Rule.Context)
    (current : Text) : (e.titleFrom rules page current).Decodes e rules page current := by
  by_cases hfinds : ∃ found, e.FindsTitle rules page found ∧ Text.isBlankText found = false
  · obtain ⟨found, hfound, hblank⟩ := hfinds
    have htitle : e.titleFrom rules page current = .ofText current (Text.trim found) := by
      rw [titleFrom_of_found hfound, if_neg (by simp [hblank])]
    have htrim : Text.isBlankText (Text.trim found) = false := by
      rw [← Bool.not_eq_true, ← Text.trim_eq_nil_iff, Text.trim_trim, Text.trim_eq_nil_iff, hblank]
      decide
    rw [htitle]
    constructor
    case marked =>
      intro found' m hfound' hmarked
      obtain rfl := hfound.unique hfound'
      rw [hmarked, Resolution.ofText_marker]
    case plain =>
      intro found' hfound' _ hlast
      obtain rfl := hfound.unique hfound'
      rw [Resolution.ofText, ImageMarker.read?_eq_none hlast]
    case unfound =>
      intro hnone
      simp [hnone found hfound] at hblank
    case title => exact Resolution.isBlankText_ofText htrim
    case image => exact fun u => Resolution.image_ofText
  · -- nothing is found but blank texts, so that the title stays
    have hall : ∀ found, e.FindsTitle rules page found → Text.isBlankText found = true := by
      intro found hfound
      by_contra hblank
      exact hfinds ⟨found, hfound, by simpa using hblank⟩
    have htitle : e.titleFrom rules page current = { title := current } := by
      by_cases hsome : ∃ found, e.FindsTitle rules page found
      · obtain ⟨found, hfound⟩ := hsome
        rw [titleFrom_of_found hfound, if_pos (hall found hfound)]
      · exact titleFrom_of_unfound (not_exists.1 hsome)
    rw [htitle]
    constructor
    case marked =>
      intro found m hfound hmarked
      have hblank := Text.trim_eq_nil_iff.2 (hall found hfound)
      rw [hblank] at hmarked
      have hlast : m.text.getLast? = some '>' := List.getLast?_concat
      rw [← hmarked] at hlast
      cases hlast
    case plain =>
      intro found hfound hblank
      simp [hall found hfound] at hblank
    case unfound => exact fun _ => rfl
    case title => exact id
    case image => simp

end

/-- **Every title rule is decoded so on every page**: a marker gives the image and the title in
front of it, any other text that does not end in a `>` is the title as it is, and in no case does a
title become blank or an image anything but an address. -/
theorem resolveTitle_decodes (source : Text) (rules : RuleSet) (page : Rule.Context)
    (current : Text) (j : Journal) :
    (resolveTitle source rules page current j).1.Decodes Resolver.css rules page current := by
  have hcss : (resolveTitle source rules page current j).1 =
      Resolver.css.titleFrom rules page current := resolveTitle_fst source rules page current j
  rw [hcss]
  exact Resolver.css.titleFrom_decodes rules page current

/-- A title with an image element behind it: `t<img src=u>`. -/
def ImageMarker.Marker.short : Marker :=
  .plain ['t'] (ended_of_notMem (by simp)) [] (.inl rfl) ['u'] (by simp) <| by
    intro c hc
    obtain rfl := List.mem_singleton.1 hc
    rfl

/-- On a page that consists of it the title is before the image, and the image is found. -/
theorem resolveTitle_decodes_short :
    Resolver.css.FindsTitle { title := some "##y" } ⟨ImageMarker.Marker.short.text, .blank⟩
      ImageMarker.Marker.short.text ∧
    (resolveTitle [] { title := some "##y" } ⟨ImageMarker.Marker.short.text, .blank⟩ ['c'] {}).1 =
      { title := ['t'], image := some ['u'] } := by
  have hfinds : Resolver.css.FindsTitle { title := some "##y" }
      ⟨ImageMarker.Marker.short.text, .blank⟩ ImageMarker.Marker.short.text :=
    ⟨"##y", by decide +kernel, by decide +kernel⟩
  have htrim : Text.trim ImageMarker.Marker.short.text = ImageMarker.Marker.short.text := by
    decide +kernel
  have hdecodes := resolveTitle_decodes [] { title := some "##y" }
    ⟨ImageMarker.Marker.short.text, .blank⟩ ['c'] {}
  refine ⟨hfinds, ?_⟩
  rw [hdecodes.marked _ _ hfinds htrim]
  rfl

end Content

end ChapterAssembly
