/-
**What reading a page leaves.**

Every step by which a page is read keeps the shape of the state: an image is placed where it is due,
but never opened, so nothing is put into it.  The nodes of a page that has been read are regular.

Main results:

* `BuildM.foreignStep_keeps`, `BuildM.bodyStep_keeps`, `BuildM.tableStep_keeps`,
  `BuildM.headStep_keeps` — the rules for drawings and formulas, for the body, for tables and for
  the head;
* `BuildM.step_keeps` — **one step by the rules of any mode keeps the state in shape**;
* `Builder.InShape.takeToken`, `Page.readFrom_inShape` — so does a token, and a whole text;
* `Page.parseFragment_regular` — **the nodes of a fragment are regular**.
-/

import ChapterAssembly.Html.Parse
import ChapterAssembly.Proofs.Html.Shape

set_option relaxedAutoImplicit false
set_option autoImplicit false
set_option mvcgen.warning false

namespace ChapterAssembly

namespace Html

open Std.Do Builder

variable {b : Builder}

namespace BuildM

/-! ### Drawings and formulas -/

theorem insertForeign_keeps (space : Space) (tag : Tag) (hname : tag.name ≠ "img") :
    Keeps (insertForeign space tag) := by
  refine keeps_of fun b h => ?_
  obtain ⟨honward, hmay⟩ := placeElement_onward h space tag
  show Builder.InShape ((ite _ _ _ : BuildM Unit) (placeElement space tag b).2).2
  split
  · exact honward.shape.push (hmay hname)
  · exact honward.shape

/-- No name of a drawing is spelt like that of an image. -/
theorem respell_name_ne {tag : Tag} (hname : tag.name ≠ "img") (space : Space) :
    (respell space tag).name ≠ "img" := by
  cases space with
  | html => exact hname
  | mathml => exact hname
  | svg =>
      show (svgTags.lookup tag.name).getD tag.name ≠ "img"
      cases hlookup : svgTags.lookup tag.name with
      | none => exact hname
      | some name =>
          have hplain : ∀ p ∈ svgTags, p.2 ≠ "img" := by simp [svgTags]
          obtain ⟨l, r, heq, -⟩ := List.lookup_eq_some_iff.1 hlookup
          exact hplain (tag.name, name) (by simp [heq])

@[spec] theorem enterForeign_keeps (space : Space) (tag : Tag) (hname : tag.name ≠ "img") :
    Keeps (enterForeign space tag) := by
  cases space with
  | svg => exact insertForeign_keeps _ _ hname
  | html => exact insertForeign_keeps _ _ hname
  | mathml => exact insertForeign_keeps _ _ hname

@[spec] theorem deciding_keeps : Keeps deciding := by
  mvcgen [deciding]

@[spec] theorem isForeign_keeps (item : Item) : Keeps (isForeign item) := by
  mvcgen [isForeign]

@[spec] theorem breakOut_keeps : Keeps breakOut := by
  mvcgen [breakOut]

/-- The search for the element that an end tag closes only takes elements off the stack. -/
theorem search_inShape (h : b.InShape) (name : String) {stack : List Nat} (hs : stack ⊆ b.stack)
    (first : Bool) : (foreignEndTag.search b name first stack b).2.InShape := by
  induction stack generalizing first with
  | nil => exact h
  | cons i rest ih =>
      have hrest : rest ⊆ b.stack := fun j hj => hs (List.mem_cons_of_mem i hj)
      cases rest with
      | nil => exact h
      | cons j rest =>
          show Builder.InShape ((ite _ _ _ : BuildM Outcome) b).2
          split
          · exact h
          show Builder.InShape ((ite _ _ _ : BuildM Outcome) b).2
          split
          · exact h.of_subset hrest
          · exact ih hrest false

@[spec] theorem foreignEndTag_keeps (name : String) : Keeps (foreignEndTag name) :=
  keeps_of fun _ h => search_inShape h name (List.Subset.refl _) true

/-- An image ends a drawing. -/
theorem name_ne_of_not_breaksOut {tag : Tag} (h : ¬breaksOut tag = true) : tag.name ≠ "img" := by
  intro hname
  simp [breaksOut, hname] at h

@[spec] theorem foreignStep_keeps (item : Item) : Keeps (foreignStep item) := by
  mvcgen [foreignStep, insertForeign_keeps]
  next h _ _ _ _ _ => exact respell_name_ne (name_ne_of_not_breaksOut h) _

/-! ### The body -/

@[spec] theorem bodyCell_keeps : Keeps bodyCell := by
  mvcgen [bodyCell]

@[spec] theorem closeItem_keeps (names : List String) : Keeps (closeItem names) := by
  mvcgen [closeItem]

@[spec] theorem closeOpenLink_keeps : Keeps closeOpenLink := by
  mvcgen [closeOpenLink]

/-- An image is placed and not opened. -/
theorem bodyStartTag_image {tag : Tag} (hname : tag.name = "img") : bodyStartTag tag = (do
    reopenFormatting
    let _ ← placeElement .html tag
    framesetNotOk
    return .done) := by
  simp [bodyStartTag, hname, headNames, blocks, headings, formattingNames]

@[spec] theorem bodyStartTag_keeps (tag : Tag) : Keeps (bodyStartTag tag) := by
  by_cases hname : tag.name = "img"
  · rw [bodyStartTag_image hname]
    mvcgen
  -- no other tag has the name of an image, so every element may be opened; what is left are the
  -- tags that change elements which are there already
  mvcgen [bodyStartTag]
  · next h _ => exact h.1.of_onward (h.1.bare.refl.addMissingAttributes _ _)
  · next h _ => exact h.of_onward (h.bare.refl.addMissingAttributes _ _)
  · next h _ =>
      refine (h.of_onward (h.bare.refl.detach _)).of_subset fun i hi => ?_
      exact List.mem_of_getLast? (Option.mem_toList.1 hi)

@[spec] theorem closeForm_keeps : Keeps closeForm := by
  mvcgen [closeForm]

@[spec] theorem bodyEndTag_keeps (name : String) : Keeps (bodyEndTag name) := by
  mvcgen [bodyEndTag]

@[spec] theorem bodyStep_keeps (item : Item) : Keeps (bodyStep item) := by
  mvcgen [bodyStep]

/-! ### Tables, selections and templates -/

@[spec] theorem textInTable_keeps : Keeps textInTable := by
  mvcgen [textInTable]

@[spec] theorem closeTable_keeps : Keeps closeTable := by
  mvcgen [closeTable]

@[spec] theorem tableStep_keeps (item : Item) : Keeps (tableStep item) := by
  mvcgen [tableStep]
  -- whatever is opened here has the name that the rule is for
  all_goals simp [*]

theorem insertRun_keeps (item : Item) : Keeps (insertRun item) := by
  mvcgen [insertRun]

theorem fosterRun_keeps (item : Item) : Keeps (fosterRun item) := by
  mvcgen [fosterRun]

/-- What is kept by the work for each item is kept by the work for all of them. -/
theorem forM_keeps {α : Type} {work : α → BuildM Unit} (h : ∀ x, Keeps (work x))
    (xs : List α) : Keeps (xs.forM work) := by
  induction xs with
  | nil => exact keeps_of fun _ h => h
  | cons x xs ih => exact keeps_of fun b hb => ih _ (h x b hb)

@[spec] theorem tableTextStep_keeps (item : Item) : Keeps (tableTextStep item) := by
  have hfoster := forM_keeps fosterRun_keeps
  have hinsert := forM_keeps insertRun_keeps
  mvcgen [tableTextStep, hfoster, hinsert]

@[spec] theorem captionStep_keeps (item : Item) : Keeps (captionStep item) := by
  mvcgen [captionStep]

@[spec] theorem columnGroupStep_keeps (item : Item) : Keeps (columnGroupStep item) := by
  mvcgen [columnGroupStep]

@[spec] theorem tableBodyStep_keeps (item : Item) : Keeps (tableBodyStep item) := by
  mvcgen [tableBodyStep]
  all_goals simp [*]

@[spec] theorem rowStep_keeps (item : Item) : Keeps (rowStep item) := by
  mvcgen [rowStep]
  all_goals simp [*]

@[spec] theorem cellStep_keeps (item : Item) : Keeps (cellStep item) := by
  mvcgen [cellStep]

@[spec] theorem closeSelect_keeps : Keeps closeSelect := by
  mvcgen [closeSelect]

@[spec] theorem selectStep_keeps (item : Item) : Keeps (selectStep item) := by
  mvcgen [selectStep]
  all_goals simp [*]

@[spec] theorem selectInTableStep_keeps (item : Item) : Keeps (selectInTableStep item) := by
  mvcgen [selectInTableStep]

@[spec] theorem templateStep_keeps (item : Item) : Keeps (templateStep item) := by
  mvcgen [templateStep]

/-! ### Around the body -/

@[spec] theorem initialStep_keeps (item : Item) : Keeps (initialStep item) := by
  mvcgen [initialStep]
  next h => exact ⟨h, h.page⟩

@[spec] theorem insertRoot_keeps (attrs : Attributes) : Keeps (insertRoot attrs) := by
  refine keeps_of fun b h => ?_
  have hnew := createElement_onward h .html "html" attrs
  have hname : "html" ≠ "img" := by decide
  have hmay := createElement_mayHold b .html hname attrs
  have hput := hnew.shape.bare.refl.append hnew.shape.page (createElement .html "html" attrs b).1
  exact (hnew.shape.of_onward hput).of_stack (List.forall_mem_singleton.2 (hput.mayHold _ hmay))

@[spec] theorem beforeHtmlStep_keeps (item : Item) : Keeps (beforeHtmlStep item) := by
  mvcgen [beforeHtmlStep]
  next h => exact ⟨h, h.page⟩

@[spec] theorem beforeHeadStep_keeps (item : Item) : Keeps (beforeHeadStep item) := by
  mvcgen [beforeHeadStep, insertElement_holds, -insertElement_keeps]
  case hname => simp_all
  all_goals
    next h _ => exact h.1.of_head h.2

@[spec] theorem closeTemplate_keeps : Keeps closeTemplate := by
  mvcgen [closeTemplate]

@[spec] theorem headStep_keeps (item : Item) : Keeps (headStep item) := by
  mvcgen [headStep]
  all_goals simp [*]

@[spec] theorem afterHeadStep_keeps (item : Item) : Keeps (afterHeadStep item) := by
  mvcgen [afterHeadStep]
  case hname | hname => simp [*]
  next h _ hhead => exact ⟨h, h.head _ hhead⟩

@[spec] theorem rawTextStep_keeps (item : Item) : Keeps (rawTextStep item) := by
  mvcgen [rawTextStep]

@[spec] theorem afterBodyStep_keeps (item : Item) : Keeps (afterBodyStep item) := by
  mvcgen [afterBodyStep]

@[spec] theorem framesetStep_keeps (item : Item) : Keeps (framesetStep item) := by
  mvcgen [framesetStep]
  all_goals simp [*]

@[spec] theorem afterFramesetStep_keeps (item : Item) : Keeps (afterFramesetStep item) := by
  mvcgen [afterFramesetStep]

@[spec] theorem afterAfterBodyStep_keeps (item : Item) : Keeps (afterAfterBodyStep item) := by
  mvcgen [afterAfterBodyStep]
  next h => exact ⟨h, h.page⟩

@[spec] theorem afterAfterFramesetStep_keeps (item : Item) :
    Keeps (afterAfterFramesetStep item) := by
  mvcgen [afterAfterFramesetStep]
  next h => exact ⟨h, h.page⟩

/-! ### All rules -/

/-- **One step by the rules of any mode keeps the state in shape.** -/
@[spec] theorem step_keeps (m : Mode) (item : Item) : Keeps (step m item) := by
  cases m with
  | initial => exact initialStep_keeps item
  | beforeHtml => exact beforeHtmlStep_keeps item
  | beforeHead => exact beforeHeadStep_keeps item
  | inHead => exact headStep_keeps item
  | afterHead => exact afterHeadStep_keeps item
  | inBody => exact bodyStep_keeps item
  | rawText => exact rawTextStep_keeps item
  | inTable => exact tableStep_keeps item
  | inTableText => exact tableTextStep_keeps item
  | inCaption => exact captionStep_keeps item
  | inColumnGroup => exact columnGroupStep_keeps item
  | inTableBody => exact tableBodyStep_keeps item
  | inRow => exact rowStep_keeps item
  | inCell => exact cellStep_keeps item
  | inSelect => exact selectStep_keeps item
  | inSelectInTable => exact selectInTableStep_keeps item
  | inTemplate => exact templateStep_keeps item
  | afterBody => exact afterBodyStep_keeps item
  | inFrameset => exact framesetStep_keeps item
  | afterFrameset => exact afterFramesetStep_keeps item
  | afterAfterBody => exact afterAfterBodyStep_keeps item
  | afterAfterFrameset => exact afterAfterFramesetStep_keeps item

/-- So do all steps that an item takes. -/
theorem takeBy_keeps (item : Item) (rounds : Nat) (rules : Option Mode) :
    Keeps (takeBy item rounds rules) := by
  induction rounds generalizing rules with
  | zero => exact keeps_of fun _ h => h
  | succ rounds ih => mvcgen [takeBy, ih]

theorem take_keeps (item : Item) : Keeps (take item) := by
  mvcgen [take, takeBy_keeps]

end BuildM

/-- **Reading a token keeps the state in shape.** -/
theorem Builder.InShape.takeToken (h : b.InShape) (token : Token) : (b.takeToken token).InShape :=
  BuildM.forM_keeps BuildM.take_keeps _ _ h

theorem Page.readFrom_inShape (h : b.InShape) (rounds : Nat) (t : Text) :
    (readFrom rounds b t).InShape := by
  induction rounds generalizing b t with
  | zero => exact h
  | succ rounds ih =>
      cases t with
      | nil => exact BuildM.take_keeps .ending b h
      | cons c t =>
          rw [readFrom]
          obtain ⟨_ | token, rest⟩ := Token.next b.content (inForeign b) (c :: t)
          · exact ih h rest
          · have hnext : Builder.InShape { b with content := contentAfter b token } := h
            exact ih (Builder.InShape.takeToken hnext token) rest

theorem Page.read_regular (h : b.InShape) (t : Text) : ∀ n ∈ (read b t).nodes, n.Regular :=
  (readFrom_inShape h _ _).bare.regular _ _

/-- **The nodes of a fragment are regular**: its images hold nothing, and it holds other fragments in
templates only. -/
theorem Page.parseFragment_regular (t : Text) : ∀ n ∈ (parseFragment t).nodes, n.Regular := by
  have hroot := BuildM.insertRoot_keeps [] { context := some "body", mode := .inBody } inShape_empty
  exact read_regular hroot t

end Html

end ChapterAssembly
