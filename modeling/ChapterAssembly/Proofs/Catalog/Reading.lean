/-
**A written catalog is read back.**

Reading what was written of a catalog always succeeds, and gives its entries in their order.  All
is kept of them but the blank characters at the ends of their texts, which XML does not keep.

Main definitions:

* `Entry.trimmed` — an entry without the blank characters at the ends of its texts.

Main results:

* `Catalog.entry?_element` — an entry is read from its element;
* `Catalog.root?_text` — the elements of a written catalog;
* `Catalog.ofText?_text` — **a written catalog is read back, with its entries trimmed**;
* `Catalog.kept_of_ofText?` — every entry that is read can be written.
-/

import ChapterAssembly.Proofs.Time.Timestamp
import ChapterAssembly.Proofs.Xml.Written
import ChapterAssembly.Store.Catalog

set_option relaxedAutoImplicit false
set_option autoImplicit false

namespace ChapterAssembly

/-- An entry without the blank characters at the ends of its texts. -/
def Entry.trimmed (e : Entry) : Entry :=
  { e with
    url := Xml.trim e.url
    title := Xml.trim e.title
    reviewImage := e.reviewImage.map Xml.trim }

namespace Entry

variable (e : Entry)

@[simp] theorem trimmed_trimmed : e.trimmed.trimmed = e.trimmed := by
  simp [trimmed, Option.map_map, Function.comp_def]

end Entry

namespace Catalog

open Xml

variable {e : Entry} {c : Catalog} {name content : Text} {ns : List Node}

/-! ### Texts of fields -/

theorem isTight_of_isNumber {t : Text} (h : Text.IsNumber t) : IsTight t := by
  have hspace : ∀ c ∈ t, isSpace c = false := by
    intro c hc
    by_contra hs
    simp only [isSpace, Bool.not_eq_false, Bool.or_eq_true, beq_iff_eq] at hs
    have := h.digits c hc
    rcases hs with ((rfl | rfl) | rfl) | rfl <;> revert this <;> decide
  exact ⟨fun c hc => hspace c (List.mem_of_head? hc), fun c hc => hspace c (List.mem_of_getLast? hc)⟩

theorem index?_ofNat (i : UInt32) : index? (trim (Text.ofNat i.toNat)) = some i := by
  have hnumber := Text.isNumber_ofNat i.toNat
  rw [(isTight_of_isNumber hnumber).trim_eq]
  have hplus : ∀ digits, Text.ofNat i.toNat ≠ '+' :: digits := by
    intro digits h
    have := hnumber.digits '+' (by simp [h])
    revert this
    decide
  unfold index?
  split
  · next digits h => exact absurd h (hplus digits)
  · simp [i.toNat_lt, UInt32.size]

theorem flag?_text (b : Bool) : flag? (trim (if b then "true" else "false")) = some b := by
  cases b <;> rfl

theorem isTight_moment (t : Timestamp) : IsTight (t.text ['Z']) where
  start c hc := by
    have hyear : ∃ d ds, Timestamp.yearText t.date.year = d :: ds ∧ isSpace d = false := by
      have hnumber := (Text.isNumber_ofNat t.date.year.natAbs).padStart 4
      unfold Timestamp.yearText
      simp only
      split
      · exact ⟨_, _, rfl, rfl⟩
      · split
        · exact ⟨_, _, rfl, rfl⟩
        · obtain ⟨d, ds, hd⟩ := List.exists_cons_of_ne_nil hnumber.ne_nil
          exact ⟨d, ds, hd, (isTight_of_isNumber hnumber).start d (by simp [hd])⟩
    obtain ⟨d, ds, hd, hspace⟩ := hyear
    obtain rfl : d = c := by simpa [Timestamp.text, hd] using hc
    exact hspace
  stop c hc := by
    rw [Timestamp.text, List.getLast?_concat] at hc
    obtain rfl : 'Z' = c := by simpa using hc
    rfl

/-! ### Entries -/

/-- The element of a field. -/
def fieldElement (f : Text × Text) : Element := ⟨f.1, [], textNodes f.2⟩

/-- The element of an entry. -/
def entryElement (e : Entry) : Element :=
  ⟨"chapter", [], ((fields e).map fieldElement).map Element.node⟩

theorem attributes?_nil (seen : List Text) : attributes? seen [] = some [] := by
  rw [attributes?]
  rfl

theorem isNil_nil (names : List (Text × Text)) : Element.isNil names [] = false := by
  rw [Element.isNil, attributes?_nil]
  rfl

theorem text?_fieldElement (f : Text × Text) : (fieldElement f).text? = some (trim f.2) :=
  text?_escape f.1 [] f.2

theorem localName_fieldElement {name : Text} (value : Text) (h : ':' ∉ name) :
    (fieldElement (name, value)).localName = name := by
  have hcut : cut? (· == ':') name = none := by
    induction name with
    | nil => rfl
    | cons c t ih =>
        obtain ⟨hc, ht⟩ : ':' ≠ c ∧ ':' ∉ t := by simpa using h
        simp [cut?, hc.symm, ih ht]
  simp [Element.localName, fieldElement, hcut]

section Draft

variable (d : Draft) (names : List (Text × Text)) (t : Text)

theorem add_index (i : UInt32) : d.add [] [] (fieldElement ("index", Text.ofNat i.toNat)) =
    (once d.index (some i)).map ({ d with index := · }) := by
  simp only [Draft.add, localName_fieldElement _ (show ':' ∉ "index".toList by decide), if_pos,
    text?_fieldElement, Option.bind_eq_bind, Option.bind_some, index?_ofNat]

theorem add_url : d.add [] [] (fieldElement ("url", t)) =
    (once d.url (some (trim t))).map ({ d with url := · }) := by
  rw [Draft.add, localName_fieldElement _ (by decide), if_neg (by decide), if_pos rfl,
    text?_fieldElement]

theorem add_title : d.add [] [] (fieldElement ("title", t)) =
    (once d.title (some (trim t))).map ({ d with title := · }) := by
  rw [Draft.add, localName_fieldElement _ (by decide), if_neg (by decide), if_neg (by decide),
    if_pos rfl, text?_fieldElement]

theorem add_isVolume (b : Bool) :
    d.add [] [] (fieldElement ("is_volume", if b then "true" else "false")) =
      (once d.isVolume (some b)).map ({ d with isVolume := · }) := by
  rw [Draft.add, localName_fieldElement _ (by decide), if_neg (by decide), if_neg (by decide),
    if_neg (by decide), if_pos rfl, text?_fieldElement, Option.bind_eq_bind, Option.bind_some,
    flag?_text]

theorem add_reviewImage : d.add [] [] (fieldElement ("review_image", t)) =
    (once d.reviewImage (some (some (trim t)))).map ({ d with reviewImage := · }) := by
  rw [Draft.add, localName_fieldElement _ (by decide), if_neg (by decide), if_neg (by decide),
    if_neg (by decide), if_neg (by decide), if_pos rfl, text?_fieldElement,
    show (fieldElement ("review_image", t)).tag = [] from rfl, isNil_nil]
  rfl

theorem add_updatedAt {moment : Timestamp} (h : moment.Kept) :
    d.add [] [] (fieldElement ("updated_at", moment.text ['Z'])) =
      (once d.updatedAt (some moment)).map ({ d with updatedAt := · }) := by
  rw [Draft.add, localName_fieldElement _ (by decide), if_neg (by decide), if_neg (by decide),
    if_neg (by decide), if_neg (by decide), if_neg (by decide), if_pos rfl, text?_fieldElement,
    Option.bind_eq_bind, Option.bind_some, (isTight_moment moment).trim_eq,
    Timestamp.ofText?_text h]

end Draft

/-- **The element of an entry is read as the entry.** -/
theorem entry?_element (he : e.updatedAt.Kept) : entry? [] (entryElement e) = some e.trimmed := by
  have hitems : (entryElement e).items? =
      some (((fields e).map fieldElement).map Item.element) := items?_elements _
  have hdeclared : Element.declared (entryElement e).tag = [] := by
    rw [Element.declared, show (entryElement e).tag = [] from rfl, attributes?_nil]
    rfl
  unfold entry?
  rw [hitems, hdeclared, show (entryElement e).tag = [] from rfl, attributes?_nil]
  simp only [Option.bind_eq_bind, Option.bind_some, List.append_nil, fields, List.map_cons,
    List.foldlM_cons, List.map_append, List.map_nil, List.foldlM_append, add_index, add_url,
    add_title, add_isVolume, add_updatedAt _ he, once, Option.map_some]
  cases himage : e.reviewImage with
  | none => simp [Draft.finish, Entry.trimmed, himage]
  | some t =>
      simp only [Option.toList_some, List.map_cons, List.map_nil, List.foldlM_cons, List.foldlM_nil,
        add_reviewImage, once, Option.map_some]
      simp [Draft.finish, Entry.trimmed, himage]

/-! ### What a written catalog stands for -/

theorem standsFor_elementText {name content : Text} {ns : List Node} (hname : IsName name)
    (h : StandsFor content ns) (hnil : content = [] → ns = []) :
    StandsFor (elementText name content) [.element name [] ns] := by
  unfold elementText
  split
  · next hempty =>
      obtain rfl : content = [] := by simpa using hempty
      obtain rfl := hnil rfl
      exact hname.standsFor_empty
  · exact h.element hname

theorem head?_elementText (name content : Text) : (elementText name content).head? = some '<' := by
  unfold elementText
  split <;> rfl

/-- Content that is written piece by piece, each starting with a tag. -/
theorem standsFor_flatMap {α : Type} {write : α → Text} {node : α → Node} {l : List α}
    (hnode : ∀ a ∈ l, StandsFor (write a) [node a]) (htag : ∀ a ∈ l, (write a).head? = some '<') :
    StandsFor (l.flatMap write) (l.map node) := by
  induction l with
  | nil => exact standsFor_nil
  | cons a l ih =>
      rw [List.forall_mem_cons] at hnode htag
      refine hnode.1.append (ih hnode.2 htag.2) ?_
      cases l with
      | nil => exact .inl rfl
      | cons b l =>
          refine .inr ?_
          have hb := htag.2 b List.mem_cons_self
          simp [List.head?_append, hb]

theorem standsFor_field {f : Text × Text} (h : IsName f.1) :
    StandsFor (fieldText f.1 f.2) [(fieldElement f).node] := by
  refine standsFor_elementText h (standsFor_escape f.2) fun hnil => ?_
  exact if_pos (escape_eq_nil_iff.1 hnil)

theorem isName_of_all {name : Text} (h : name.all isNameChar = true) (hne : name ≠ []) :
    IsName name :=
  ⟨hne, List.all_eq_true.1 h⟩

theorem isName_catalog : IsName "catalog" := isName_of_all rfl (by simp)

theorem isName_of_mem_fields {f : Text × Text} (h : f ∈ fields e) : IsName f.1 := by
  have hall : (fields e).all fun f => f.1.all isNameChar && !f.1.isEmpty := by
    cases himage : e.reviewImage <;> simp only [fields, himage] <;> rfl
  obtain ⟨hchars, hne⟩ := Bool.and_eq_true_iff.1 (List.all_eq_true.1 hall f h)
  exact isName_of_all hchars (by simpa using hne)

theorem fieldTexts_ne_nil (e : Entry) :
    ((fields e).flatMap fun f => fieldText f.1 f.2) ≠ [] := by
  intro hnil
  have hindex : fieldText "index" (Text.ofNat e.index.toNat) = [] :=
    (List.append_eq_nil_iff.1 hnil).1
  have := head?_elementText "index" (escape (Text.ofNat e.index.toNat))
  rw [show elementText "index" _ = [] from hindex] at this
  cases this

theorem standsFor_entryText (e : Entry) : StandsFor (entryText e) [(entryElement e).node] := by
  refine standsFor_elementText (isName_of_all rfl (by simp)) ?_ fun hnil =>
    absurd hnil (fieldTexts_ne_nil e)
  rw [show (entryElement e).content = ((fields e).map fieldElement).map Element.node from rfl,
    List.map_map]
  exact standsFor_flatMap (fun f hf => standsFor_field (isName_of_mem_fields hf))
    fun f _ => head?_elementText _ _

/-- The root of a written catalog. -/
def root (c : Catalog) : Element := ⟨"catalog", [], (c.map entryElement).map Element.node⟩

theorem tokens_markup {t rest : Text} {ts : List Token} (h : markup? t = some (ts, rest)) :
    tokens ('<' :: t) = ts ++ tokens rest := by
  rw [tokens, if_pos rfl]
  split
  · next h' =>
      obtain ⟨rfl, rfl⟩ := by simpa using h.symm.trans h'
      rfl
  · next h' => cases h.symm.trans h'

theorem tokens_heading (t : Text) :
    tokens (heading ++ '<' :: t) = .raw ['\n'] :: tokens ('<' :: t) := by
  have hmarkup : markup? ("?xml version=\"1.0\" encoding=\"UTF-8\"?>\n".toList ++ '<' :: t) =
      some ([], ['\n'] ++ '<' :: t) := rfl
  have hline : tokens (['\n'] ++ '<' :: t) = .raw ['\n'] :: tokens ('<' :: t) :=
    tokens_raw t (by simp) (by simp)
  exact (tokens_markup hmarkup).trans hline

/-- The root of a text that is one element. -/
theorem rootOf?_elementText {name content : Text} {ns : List Node} (hname : IsName name)
    (h : StandsFor content ns) (hnil : content = [] → ns = []) :
    rootOf? [] (tokens (elementText name content)) = some ⟨name, [], ns⟩ := by
  unfold elementText
  split
  · next hempty =>
      obtain rfl : content = [] := by simpa using hempty
      obtain rfl := hnil rfl
      rw [tokens_empty [] hname.ne_nil hname.chars]
      rfl
  · rw [tokens_opening _ hname.ne_nil hname.chars, rootOf?_open, h,
      tokens_closing _ hname.chars]
    exact rootOf?_close_root _ _

/-- **The elements of a written catalog.** -/
theorem root?_text (c : Catalog) : root? c.text = some (root c) := by
  have hcontent : StandsFor (c.flatMap entryText) ((c.map entryElement).map Element.node) := by
    rw [List.map_map]
    exact standsFor_flatMap (fun e _ => standsFor_entryText e) fun e _ => head?_elementText _ _
  have hnil : c.flatMap entryText = [] → (c.map entryElement).map Element.node = [] := by
    cases c with
    | nil => intro _; rfl
    | cons e c =>
        intro h
        have := head?_elementText "chapter" ((fields e).flatMap fun f => fieldText f.1 f.2)
        rw [show elementText "chapter" _ = entryText e from rfl,
          (List.append_eq_nil_iff.1 h).1] at this
        simp at this
  have hroot := rootOf?_elementText isName_catalog hcontent hnil
  obtain ⟨r, hr⟩ := List.head?_eq_some_iff.1 (head?_elementText "catalog" (c.flatMap entryText))
  have hmark : withoutMark c.text = c.text := rfl
  rw [root?, hmark, text, hr, tokens_heading, ← hr]
  exact hroot

/-! ### Reading what was written -/

/-- The entries of a catalog are read one after the other. -/
theorem entries?_elements (hc : ∀ e ∈ c, e.updatedAt.Kept) {part : Part}
    (hpart : part = .before ∨ part = .among "chapter") :
    entries? [] part ((c.map entryElement).map .element) = some (c.map Entry.trimmed) := by
  induction c generalizing part with
  | nil => cases part <;> rfl
  | cons e c ih =>
      rw [List.forall_mem_cons] at hc
      have hname : part = .among (entryElement e).name ∨
          (part = .before ∧ (entryElement e).localName = "chapter") :=
        hpart.symm.imp_right fun h => ⟨h, rfl⟩
      rw [List.map_cons, List.map_cons, entries?, if_pos hname, entry?_element hc.1,
        show (entryElement e).name = "chapter".toList from rfl, ih hc.2 (.inr rfl)]
      rfl

/-- **A written catalog is read back, with its entries trimmed.** -/
theorem ofText?_text (hc : ∀ e ∈ c, e.updatedAt.Kept) :
    ofText? c.text = some (c.map Entry.trimmed) := by
  have hitems : (root c).items? = some ((c.map entryElement).map .element) := items?_elements _
  have hdeclared : Element.declared (root c).tag = [] := by
    rw [Element.declared, show (root c).tag = [] from rfl, attributes?_nil]
    rfl
  rw [ofText?, root?_text]
  simp only [Option.bind_eq_bind, Option.bind_some, hitems, hdeclared,
    show attributes? [] (root c).tag = some [] from attributes?_nil []]
  exact entries?_elements hc (.inl rfl)

/-! ### What is read can be written -/

theorem mem_of_once {α : Type} {before value : Option α} {after : Option α} {a : α}
    (h : once before value = some after) (ha : a ∈ after) : a ∈ value := by
  unfold once at h
  split at h
  · cases h
    exact ha
  · cases h

/-- A moment that is read from a field can be written. -/
theorem kept_of_add {d d' : Draft} {names : List (Text × Text)} {tag : Text} {f : Element}
    (h : d.add names tag f = some d') (hd : ∀ t ∈ d.updatedAt, t.Kept) :
    ∀ t ∈ d'.updatedAt, t.Kept := by
  simp only [Draft.add] at h
  by_cases hname : f.localName = "updated_at"
  · rw [hname, if_neg (by decide), if_neg (by decide), if_neg (by decide), if_neg (by decide),
      if_neg (by decide), if_pos rfl] at h
    obtain ⟨after, hafter, rfl⟩ := Option.map_eq_some_iff.1 h
    intro t ht
    obtain ⟨text, -, hread⟩ := Option.bind_eq_some_iff.1 (mem_of_once hafter ht)
    exact Timestamp.kept_of_ofText? hread
  · -- No other field is about the moment.
    have hsame {α : Type} {field : Option α} {set : α → Draft}
        (h : field.map set = some d') (hset : ∀ a, (set a).updatedAt = d.updatedAt) :
        ∀ t ∈ d'.updatedAt, t.Kept := by
      obtain ⟨a, -, rfl⟩ := Option.map_eq_some_iff.1 h
      rw [hset]
      exact hd
    split_ifs at h <;> first
      | exact hsame h fun _ => rfl
      | exact Option.some_inj.1 h ▸ hd

/-- What every step keeps holds at the end. -/
theorem of_foldlM {α β : Type} {f : α → β → Option α} {P : α → Prop}
    (hf : ∀ a b a', P a → f a b = some a' → P a') {l : List β} {a a' : α} (ha : P a)
    (h : l.foldlM f a = some a') : P a' := by
  induction l generalizing a with
  | nil => exact Option.some_inj.1 h ▸ ha
  | cons b l ih =>
      rw [List.foldlM_cons, Option.bind_eq_bind, Option.bind_eq_some_iff] at h
      obtain ⟨a₁, h₁, h⟩ := h
      exact ih (hf a b a₁ ha h₁) h

theorem kept_of_entry? {names : List (Text × Text)} {el : Element} (h : entry? names el = some e) :
    e.updatedAt.Kept := by
  unfold entry? at h
  simp only [Option.bind_eq_bind, Option.bind_eq_some_iff] at h
  obtain ⟨-, -, items, -, d, hd, hfinish⟩ := h
  have hkept : ∀ t ∈ d.updatedAt, t.Kept := by
    refine of_foldlM (P := fun d : Draft => ∀ t ∈ d.updatedAt, t.Kept) ?_ (by simp) hd
    intro d item d' hd hstep
    cases item with
    | text t => exact Option.some_inj.1 hstep ▸ hd
    | element f => exact kept_of_add hstep hd
  simp only [Draft.finish, Option.bind_eq_bind, Option.bind_eq_some_iff] at hfinish
  obtain ⟨_, -, _, -, _, -, t, ht, he⟩ := hfinish
  cases he
  exact hkept t ht

theorem kept_of_entries? {names : List (Text × Text)} {part : Part} {items : List Item}
    (h : entries? names part items = some c) : ∀ e ∈ c, e.updatedAt.Kept := by
  induction part, items using entries?.induct generalizing c with
  | case1 part =>
      cases part <;> cases h <;> simp
  | case2 t items ih => exact ih h
  | case3 part t items hpart ih =>
      cases part with
      | before => exact absurd rfl hpart
      | among name => exact ih h
      | behind => exact ih h
  | case4 part el items hpart ih =>
      rw [entries?, if_pos hpart] at h
      simp only [Option.bind_eq_bind, Option.bind_eq_some_iff] at h
      obtain ⟨e, he, c', hc', h⟩ := h
      cases h
      have hkept := kept_of_entry? he
      exact List.forall_mem_cons.2 ⟨hkept, ih hc'⟩
  | case5 part el items hpart hname =>
      rw [entries?, if_neg hpart, if_pos hname] at h
      cases h
  | case6 part el items hpart hname hpass ih =>
      rw [entries?, if_neg hpart, if_neg hname, if_pos hpass] at h
      exact ih h
  | case7 part el items hpart hname hpass =>
      rw [entries?, if_neg hpart, if_neg hname, if_neg hpass] at h
      cases h

/-- **Every entry that is read can be written.** -/
theorem kept_of_ofText? {t : Text} (h : ofText? t = some c) : ∀ e ∈ c, e.updatedAt.Kept := by
  simp only [ofText?, Option.bind_eq_bind, Option.bind_eq_some_iff] at h
  obtain ⟨_, -, _, -, _, -, h⟩ := h
  exact kept_of_entries? h

end Catalog

end ChapterAssembly
