/-
**What reading a page keeps.**

While a page is being read, images never get anything put into them: whatever may yet get something
put into it — the page, the open elements, the elements that will be made from the listed formatting
elements, and the head — is no image.

Main definitions:

* `Builder.InShape`, `Builder.Onward` — that this is so in a state of reading, and in a later one;
* `BuildM.Keeps` — some work keeps the state in shape;
* `BuildM.Place.Fits` — a place into which something may be put.

Main results:

* `BuildM.exists_placeIn` — where something is due, there is a fitting place;
* `BuildM.insertElement_keeps`, `BuildM.insertText_keeps` — **growing the page keeps the shape**;
* `BuildM.reopenFormatting_keeps`, `BuildM.insertFormatting_keeps` — so do formatting elements;
* `BuildM.adopt_keeps` — and so does closing them in the wrong order.

Mathlib is imported as a whole because the triples of `Std.Do` come with nothing less.
-/

import Mathlib
import ChapterAssembly.Html.Builder.Formatting
import ChapterAssembly.Proofs.Html.Cells

set_option relaxedAutoImplicit false
set_option autoImplicit false
set_option mvcgen.warning false

namespace ChapterAssembly

namespace Html

open Std.Do Builder

/-! ### What reading keeps -/

/-- A listed element is no image. -/
def Builder.Formatting.Plain : Formatting → Prop
  | .border => True
  | .element _ tag => tag.name ≠ "img"

/-- Images hold nothing, and whatever may yet get something put into it is no image: the page, the
open elements, the copies of formatting elements, and the head. -/
structure InShape (a : Arena) (stack : List Nat) (formatting : List Formatting)
    (head : Option Nat) : Prop where
  bare : a.Bare
  page : a.MayHold 0
  stack : ∀ i ∈ stack, a.MayHold i
  formatting : ∀ f ∈ formatting, f.Plain
  head : ∀ i ∈ head, a.MayHold i

theorem inShape_empty : InShape .empty [] [] none where
  bare := Arena.bare_empty
  page := Arena.mayHold_empty
  stack := by simp
  formatting := by simp
  head := by simp

/-- The state of reading is in shape. -/
abbrev Builder.InShape (b : Builder) : Prop :=
  Html.InShape b.arena b.stack b.formatting b.headElement

/-- A later state is in shape, and what might hold others still may. -/
structure Builder.Onward (b b' : Builder) : Prop where
  shape : b'.InShape
  arena : b.arena.Onward b'.arena

namespace InShape

variable {a a' : Arena} {stack stack' : List Nat} {formatting formatting' : List Formatting}
  {head : Option Nat} {i : Nat}

theorem of_onward (h : InShape a stack formatting head) (ha : a.Onward a') :
    InShape a' stack formatting head where
  bare := ha.bare
  page := ha.mayHold 0 h.page
  stack i hi := ha.mayHold i (h.stack i hi)
  formatting := h.formatting
  head i hi := ha.mayHold i (h.head i hi)

theorem of_stack (h : InShape a stack formatting head) (hs : ∀ i ∈ stack', a.MayHold i) :
    InShape a stack' formatting head :=
  ⟨h.bare, h.page, hs, h.formatting, h.head⟩

/-- Elements are closed. -/
theorem of_subset (h : InShape a stack formatting head) (hs : stack' ⊆ stack) :
    InShape a stack' formatting head :=
  h.of_stack fun i hi => h.stack i (hs hi)

theorem push (h : InShape a stack formatting head) (hi : a.MayHold i) :
    InShape a (i :: stack) formatting head :=
  h.of_stack (List.forall_mem_cons.2 ⟨hi, h.stack⟩)

theorem of_formatting (h : InShape a stack formatting head) (hf : ∀ f ∈ formatting', f.Plain) :
    InShape a stack formatting' head :=
  ⟨h.bare, h.page, h.stack, hf, h.head⟩

/-- Formatting elements are forgotten. -/
theorem of_formatting_subset (h : InShape a stack formatting head)
    (hf : formatting' ⊆ formatting) : InShape a stack formatting' head :=
  h.of_formatting fun f hmem => h.formatting f (hf hmem)

theorem of_head (h : InShape a stack formatting head) (hi : a.MayHold i) :
    InShape a stack formatting (some i) :=
  ⟨h.bare, h.page, h.stack, h.formatting, fun _ hj => Option.some.inj hj ▸ hi⟩

theorem headD (h : InShape a stack formatting head) : a.MayHold (stack.headD 0) := by
  cases stack with
  | nil => exact h.page
  | cons i is => exact h.stack i List.mem_cons_self

theorem getLastD (h : InShape a stack formatting head) : a.MayHold (stack.getLastD 0) := by
  rw [List.getLastD_eq_getLast?]
  cases hlast : stack.getLast? with
  | none => exact h.page
  | some i => exact h.stack i (List.mem_of_getLast? hlast)

end InShape

variable {b b' b'' : Builder}

theorem Builder.Onward.refl (h : b.InShape) : b.Onward b := ⟨h, h.bare.refl⟩

theorem Builder.Onward.trans (h : b.Onward b') (h' : b'.Onward b'') : b.Onward b'' :=
  ⟨h'.shape, h.arena.trans h'.arena⟩

theorem InShape.grow {a : Arena} (h : b.InShape) (ha : b.arena.Onward a) :
    b.Onward { b with arena := a } :=
  ⟨h.of_onward ha, ha⟩

/-! ### Work that keeps it -/

namespace BuildM

/-- Some work keeps the state of reading in shape. -/
abbrev Keeps {α : Type} (work : BuildM α) : Prop :=
  ⦃fun b => ⌜b.InShape⌝⦄ work ⦃⇓ _ b => ⌜b.InShape⌝⦄

theorem keeps_of {α : Type} {work : BuildM α} (h : ∀ b, b.InShape → (work b).2.InShape) :
    Keeps work := fun b hb => h b hb

/-! ### The stack of open elements -/

@[spec] theorem elementOf_keeps (i : Nat) : Keeps (elementOf i) := keeps_of fun _ h => h

@[spec] theorem current_keeps : Keeps current := keeps_of fun _ h => h

@[spec] theorem currentElement_keeps : Keeps currentElement := keeps_of fun _ h => h

@[spec] theorem outermost_holds :
    ⦃fun b => ⌜b.InShape⌝⦄ outermost ⦃⇓ i b => ⌜b.InShape ∧ b.arena.MayHold i⌝⦄ :=
  fun _ h => ⟨h, h.getLastD⟩

@[spec] theorem currentIs_keeps (name : String) : Keeps (currentIs name) := keeps_of fun _ h => h

@[spec] theorem currentIsOf_keeps (names : List String) : Keeps (currentIsOf names) :=
  keeps_of fun _ h => h

@[spec] theorem inScope_keeps (ends found : Element → Bool) : Keeps (inScope ends found) :=
  keeps_of fun _ h => h

@[spec] theorem namedInScope_keeps (ends : Element → Bool) (name : String) :
    Keeps (namedInScope ends name) :=
  inScope_keeps ends _

@[spec] theorem isOpen_keeps (name : String) : Keeps (isOpen name) := keeps_of fun _ h => h

@[spec] theorem push_keeps (i : Nat) :
    ⦃fun b => ⌜b.InShape ∧ b.arena.MayHold i⌝⦄ push i ⦃⇓ _ b => ⌜b.InShape⌝⦄ :=
  fun _ h => h.1.push h.2

@[spec] theorem pop_keeps : Keeps pop := keeps_of fun _ h => h.of_subset (List.tail_subset _)

@[spec] theorem popWhile_keeps (p : Element → Bool) : Keeps (popWhile p) :=
  keeps_of fun _ h => h.of_subset (List.dropWhile_sublist _).subset

@[spec] theorem popThrough_keeps (p : Element → Bool) : Keeps (popThrough p) := by
  mvcgen [popThrough]

@[spec] theorem popThroughNamed_keeps (name : String) : Keeps (popThroughNamed name) :=
  popThrough_keeps _

@[spec] theorem closeImplied_keeps : Keeps closeImplied := popWhile_keeps _

@[spec] theorem closeImpliedBut_keeps (name : String) : Keeps (closeImpliedBut name) :=
  popWhile_keeps _

@[spec] theorem popToTable_keeps : Keeps popToTable := popWhile_keeps _

@[spec] theorem popToTableBody_keeps : Keeps popToTableBody := popWhile_keeps _

@[spec] theorem popToRow_keeps : Keeps popToRow := popWhile_keeps _

@[spec] theorem removeFromStack_keeps (i : Nat) : Keeps (removeFromStack i) :=
  keeps_of fun _ h => h.of_subset (List.filter_sublist).subset

@[spec] theorem closeParagraph_keeps : Keeps closeParagraph := by
  mvcgen [closeParagraph]

@[spec] theorem closeOpenParagraph_keeps : Keeps closeOpenParagraph := by
  mvcgen [closeOpenParagraph]

@[spec] theorem setMode_keeps (m : Mode) : Keeps (setMode m) := keeps_of fun _ h => h

@[spec] theorem framesetNotOk_keeps : Keeps framesetNotOk := keeps_of fun _ h => h

/-! ### Places -/

/-- A place into which something may be put. -/
def Place.Fits (a : Arena) : Place → Prop
  | .inside i => a.MayHold i
  | .before _ below => a.MayHold below

theorem Place.Fits.of_onward {a a' : Arena} {p : Place} (h : p.Fits a) (ha : a.Onward a') :
    p.Fits a' := by
  cases p with
  | inside i => exact ha.mayHold i h
  | before table below => exact ha.mayHold below h

/-- The place in front of a table is next to open elements. -/
theorem fits_search (h : b.InShape) {stack : List Nat} (hs : stack ⊆ b.stack) :
    (placeIn.search b stack).Fits b.arena := by
  induction stack with
  | nil => exact h.getLastD
  | cons i rest ih =>
      have hrest : rest ⊆ b.stack := fun j hj => hs (List.mem_cons_of_mem i hj)
      simp only [placeIn.search]
      split
      · exact h.stack i (hs List.mem_cons_self)
      · split
        · exact (h.of_subset hrest).headD
        · exact ih hrest

/-- **Where something is due, there is a fitting place.** -/
theorem exists_placeIn (h : b.InShape) {target : Nat} (ht : b.arena.MayHold target) :
    ∃ p, placeIn target b = (p, b) ∧ p.Fits b.arena := by
  have hplace : placeIn target b =
      (if b.fostering && ((b.arena.element? target).getD default).isHtmlOf
          ["table", "tbody", "tfoot", "thead", "tr"]
        then placeIn.search b b.stack else .inside target, b) := by
    show (ite _ _ _ : BuildM Place) b = _
    split <;> rfl
  refine ⟨_, hplace, ?_⟩
  split
  · exact fits_search h (List.Subset.refl _)
  · exact ht

theorem exists_place (h : b.InShape) : ∃ p, place b = (p, b) ∧ p.Fits b.arena :=
  exists_placeIn h h.headD

/-! ### Growing the page -/

theorem putCell_onward (h : b.InShape) {p : Place} (hp : p.Fits b.arena) (i : Nat) :
    b.Onward (putCell p i b).2 := by
  cases p with
  | inside j => exact h.grow (h.bare.refl.append hp i)
  | before table below =>
      show b.Onward (if (b.arena.parent? table).isSome
        then { b with arena := b.arena.insertBefore table i }
        else { b with arena := b.arena.append below i })
      split
      · exact h.grow (h.bare.refl.insertBefore table i)
      · exact h.grow (h.bare.refl.append hp i)

@[spec] theorem insertText_keeps (t : Text) : Keeps (insertText t) := by
  refine keeps_of fun b h => ?_
  obtain ⟨p, hplace, hp⟩ := exists_place h
  simp only [insertText, bind, StateT.bind, hplace]
  cases p with
  | inside j => exact h.of_onward (h.bare.refl.appendText hp t)
  | before table below =>
      show Builder.InShape (if (b.arena.parent? table).isSome
        then { b with arena := b.arena.insertTextBefore table t }
        else { b with arena := b.arena.appendText below t })
      split
      · exact h.of_onward (h.bare.refl.insertTextBefore table t)
      · exact h.of_onward (h.bare.refl.appendText hp t)

theorem createElement_onward (h : b.InShape) (space : Space) (name : String) (attrs : Attributes) :
    b.Onward (createElement space name attrs b).2 :=
  h.grow (h.bare.refl.create _)

/-- A new element that is no image may hold others. -/
theorem createElement_mayHold (b : Builder) (space : Space) {name : String} (hname : name ≠ "img")
    (attrs : Attributes) :
    (createElement space name attrs b).2.arena.MayHold (createElement space name attrs b).1 :=
  Arena.mayHold_create (by simpa [Cell.isImage] using hname)

theorem placeElement_onward (h : b.InShape) (space : Space) (tag : Tag) :
    b.Onward (placeElement space tag b).2 ∧ (tag.name ≠ "img" →
      (placeElement space tag b).2.arena.MayHold (placeElement space tag b).1) := by
  have hnew := createElement_onward h space tag.name tag.attrs
  obtain ⟨p, hplace, hp⟩ := exists_place hnew.shape
  have hput := putCell_onward hnew.shape hp (createElement space tag.name tag.attrs b).1
  have heq : placeElement space tag b = ((createElement space tag.name tag.attrs b).1,
      (putCell p (createElement space tag.name tag.attrs b).1
        (createElement space tag.name tag.attrs b).2).2) := by
    show (do putCell (← place) (createElement space tag.name tag.attrs b).1
             return (createElement space tag.name tag.attrs b).1 : BuildM Nat)
      (createElement space tag.name tag.attrs b).2 = _
    simp only [bind, StateT.bind, hplace]
    rfl
  rw [heq]
  exact ⟨hnew.trans hput,
    fun hname => hput.arena.mayHold _ (createElement_mayHold b space hname tag.attrs)⟩

@[spec] theorem placeElement_keeps (space : Space) (tag : Tag) : Keeps (placeElement space tag) :=
  keeps_of fun _ h => (placeElement_onward h space tag).1.shape

/-- An element that is opened and no image may hold others. -/
theorem insertElement_holds (tag : Tag) (hname : tag.name ≠ "img") :
    ⦃fun b => ⌜b.InShape⌝⦄ insertElement tag ⦃⇓ i b => ⌜b.InShape ∧ b.arena.MayHold i⌝⦄ := by
  intro b h
  obtain ⟨honward, hmay⟩ := placeElement_onward h .html tag
  exact ⟨honward.shape.push (hmay hname), hmay hname⟩

@[spec] theorem insertElement_keeps (tag : Tag) (hname : tag.name ≠ "img") :
    Keeps (insertElement tag) :=
  keeps_of fun b h => (insertElement_holds tag hname b h).1

@[spec] theorem insertNamed_keeps (name : String) (hname : name ≠ "img") :
    Keeps (insertNamed name) := insertElement_keeps _ hname

@[spec] theorem commentIn_keeps (i : Nat) (t : Text) :
    ⦃fun b => ⌜b.InShape ∧ b.arena.MayHold i⌝⦄ commentIn i t ⦃⇓ _ b => ⌜b.InShape⌝⦄ := by
  rintro b ⟨h, hi⟩
  have hnew := h.bare.refl.create (.comment t)
  exact h.of_onward (hnew.append (hnew.mayHold i hi) _)

@[spec] theorem insertComment_keeps (t : Text) : Keeps (insertComment t) := by
  refine keeps_of fun b h => ?_
  obtain ⟨p, hplace, hp⟩ := exists_place h
  have hnew : b.Onward { b with arena := (b.arena.create (.comment t)).2 } :=
    h.grow (h.bare.refl.create _)
  simp only [insertComment, bind, StateT.bind, hplace]
  exact (putCell_onward hnew.shape (hp.of_onward hnew.arena) _).shape

@[spec] theorem insertRaw_keeps (tag : Tag) (content : Content) (hname : tag.name ≠ "img") :
    Keeps (insertRaw tag content) := by
  mvcgen [insertRaw]

/-! ### Formatting elements -/

@[spec] theorem addBorder_keeps : Keeps addBorder :=
  keeps_of fun _ h => h.of_formatting (List.forall_mem_cons.2 ⟨trivial, h.formatting⟩)

@[spec] theorem dropToBorder_keeps : Keeps dropToBorder :=
  keeps_of fun _ h => h.of_formatting_subset fun _ hmem =>
    (List.dropWhile_sublist _).subset (List.mem_of_mem_tail hmem)

@[spec] theorem removeFormatting_keeps (i : Nat) : Keeps (removeFormatting i) :=
  keeps_of fun _ h => h.of_formatting_subset List.filter_sublist.subset

/-- Opens listed elements again, the earliest first, and lists them. -/
def reopen (f : Formatting) (done : List Formatting) : BuildM (ForInStep (List Formatting)) :=
  match f with
  | .border => pure (.yield (f :: done))
  | .element _ tag => do
    let i ← insertElement { tag with selfClosing := false }
    pure (.yield (.element i tag :: done))

/-- What is opened again is no image, as what was listed is none. -/
theorem forIn_reopen {closed done : List Formatting} (hclosed : ∀ f ∈ closed, f.Plain)
    (hdone : ∀ f ∈ done, f.Plain) (h : b.InShape) :
    (forIn closed done reopen b).2.InShape ∧ ∀ f ∈ (forIn closed done reopen b).1, f.Plain := by
  induction closed generalizing done b with
  | nil => exact ⟨h, hdone⟩
  | cons f closed ih =>
      obtain ⟨hf, hrest⟩ := List.forall_mem_cons.1 hclosed
      rw [List.forIn_cons]
      cases f with
      | border => exact ih hrest (List.forall_mem_cons.2 ⟨hf, hdone⟩) h
      | element i tag =>
          exact ih hrest (List.forall_mem_cons.2 ⟨hf, hdone⟩)
            (insertElement_keeps { tag with selfClosing := false } hf b h)

@[spec] theorem reopenFormatting_keeps : Keeps reopenFormatting := by
  refine keeps_of fun b h => ?_
  have hclosed : ∀ f ∈ (b.formatting.takeWhile fun f => !isBorderOrOpen b f).reverse, f.Plain :=
    fun f hf => h.formatting f ((List.takeWhile_sublist _).subset (List.mem_reverse.1 hf))
  have hrest : ∀ f ∈ b.formatting.drop
      (b.formatting.takeWhile fun f => !isBorderOrOpen b f).length, f.Plain :=
    fun f hf => h.formatting f (List.mem_of_mem_drop hf)
  obtain ⟨hshape, hplain⟩ := forIn_reopen hclosed hrest h
  show Builder.InShape ((ite _ (bind (forIn _ _ reopen) _) (pure ()) : BuildM Unit) b).2
  split
  · exact hshape.of_formatting hplain
  · exact h

@[spec] theorem insertFormatting_keeps (tag : Tag) (hname : tag.name ≠ "img") :
    Keeps (insertFormatting tag) := by
  mvcgen [insertFormatting]
  all_goals
    next h _ => exact h.of_formatting (List.forall_mem_cons.2 ⟨hname, h.formatting⟩)

/-! ### Closing in the wrong order -/

@[spec] theorem closeNamed_keeps (name : String) : Keeps (closeNamed name) := by
  mvcgen [closeNamed]
  next h _ => exact h.of_subset (List.drop_subset _ _)

theorem run_get {α : Type} (next : Builder → BuildM α) : (get >>= next) b = next b b := rfl

/-- A copy takes the place of an open formatting element, and something is moved into it. -/
theorem copy_onward (h : b.InShape) {tag : Tag} (hname : tag.name ≠ "img") (node last : Nat) :
    let (copy, b') := createElement .html tag.name tag.attrs b
    b.Onward { b' with
      arena := (b'.arena.detach last).append copy last
      stack := b'.stack.map fun i => if i = node then copy else i
      formatting := b'.formatting.map fun f =>
        if isEntryOf node f then .element copy tag else f } := by
  have hnew := createElement_onward h .html tag.name tag.attrs
  have hcopy := createElement_mayHold b .html hname tag.attrs
  have hmoved := hnew.shape.bare.refl.detach last
  have hput := hmoved.append (hmoved.mayHold _ hcopy) last
  refine ⟨InShape.of_onward ⟨hnew.shape.bare, hnew.shape.page, ?stack, ?formatting,
    hnew.shape.head⟩ hput, hnew.arena.trans hput⟩
  case stack =>
    refine List.forall_mem_map.2 fun i hi => ?_
    split
    · exact hcopy
    · exact hnew.shape.stack i hi
  case formatting =>
    refine List.forall_mem_map.2 fun f hf => ?_
    split
    · exact hname
    · exact hnew.shape.formatting f hf

theorem splitBetween_onward (formatting block : Nat) (above : List Nat) (count last : Nat)
    (mark : Bookmark) (h : b.InShape) :
    b.Onward (splitBetween formatting block count above last mark b).2 := by
  induction above generalizing count last mark b with
  | nil => exact .refl h
  | cons node above ih =>
      have hgone : ∀ b : Builder, b.InShape → b.Onward (removeFromStack node b).2 :=
        fun b h => ⟨removeFromStack_keeps node b h, h.bare.refl⟩
      have hlisted : b.Onward (removeFormatting node b).2 :=
        ⟨removeFormatting_keeps node b h, h.bare.refl⟩
      rw [splitBetween]
      by_cases hnode : node = formatting
      · rw [if_pos hnode]
        exact .refl h
      rw [if_neg hnode]
      have hclosed : b.Onward ((do
          if 3 < count + 1 then removeFormatting node
          removeFromStack node
          splitBetween formatting block (count + 1) above last mark : BuildM _) b).2 := by
        show b.Onward ((ite _ _ _ : BuildM _) b).2
        split
        · have hboth := hlisted.trans (hgone _ hlisted.shape)
          exact hboth.trans (ih _ _ _ hboth.shape)
        · exact (hgone b h).trans (ih _ _ _ (hgone b h).shape)
      rw [run_get]
      generalize hentry : (if 3 < count + 1 then none
        else b.formatting.find? (isEntryOf node)) = entry
      rcases entry with _ | (_ | ⟨i, tag⟩)
      · exact hclosed
      · exact hclosed
      · have hname : tag.name ≠ "img" := by
          split at hentry
          · cases hentry
          · exact h.formatting _ (List.mem_of_find?_eq_some hentry)
        have hcopy := copy_onward h hname node last
        exact hcopy.trans (ih _ _ _ hcopy.shape)

/-- Some work leaves `P`, and from there the rest leaves the state in shape. -/
theorem inShape_bind {α β : Type} {work : BuildM α} {next : α → BuildM β}
    {P : α → Builder → Prop} (hwork : P (work b).1 (work b).2)
    (hnext : ∀ x b', P x b' → (next x b').2.InShape) : ((work >>= next) b).2.InShape :=
  hnext _ _ hwork

theorem relist_onward (h : b.InShape) (mark : Bookmark) (split : Nat) (entry : Formatting)
    (hentry : entry.Plain) : b.Onward (relist mark split entry b).2 := by
  cases mark with
  | inPlaceOf i =>
      refine ⟨h.of_formatting (List.forall_mem_map.2 fun f hf => ?_), h.bare.refl⟩
      split
      · exact hentry
      · exact h.formatting f hf
  | behind i =>
      refine ⟨h.of_formatting fun g hg => ?_, h.bare.refl⟩
      obtain ⟨f, hf, hg⟩ := List.mem_flatMap.1 (List.mem_filter.1 hg).1
      split at hg
      · rcases List.mem_pair.1 hg with rfl | rfl
        · exact hentry
        · exact h.formatting g hf
      · exact List.mem_singleton.1 hg ▸ h.formatting f hf

/-- The content of a block that overlaps a formatting element goes into a copy of that. -/
theorem overlap_keeps (h : b.InShape) {tag : Tag} (hname : tag.name ≠ "img")
    {block outside : Nat} (hblock : b.arena.MayHold block) (houtside : b.arena.MayHold outside)
    (formatting : Nat) (between : List Nat) :
    ((do
      let (last, mark) ← splitBetween formatting block 0 between block (.inPlaceOf formatting)
      modify fun b => { b with arena := b.arena.detach last }
      putCell (← placeIn outside) last
      let copy ← createElement .html tag.name tag.attrs
      modify fun b => { b with arena := (b.arena.moveChildren block copy).append block copy }
      relist mark formatting (.element copy tag)
      removeFromStack formatting
      modify fun b =>
        { b with stack := b.stack.flatMap fun i => if i = block then [copy, i] else [i] }
      return true : BuildM Bool) b).2.InShape := by
  refine inShape_bind (P := fun _ b' => b.Onward b')
    (splitBetween_onward formatting block between 0 block (.inPlaceOf formatting) h)
    fun (last, mark) b₁ hsplit => ?_
  refine inShape_bind (P := fun _ b' => b.Onward b')
    (hsplit.trans (hsplit.shape.grow (hsplit.shape.bare.refl.detach last))) fun _ b₂ hdetach => ?_
  obtain ⟨p, hplace, hp⟩ := exists_placeIn hdetach.shape (hdetach.arena.mayHold _ houtside)
  refine inShape_bind (P := fun q b' => (q, b') = (p, b₂)) hplace fun q b' heq => ?_
  obtain ⟨rfl, rfl⟩ := Prod.mk.inj heq
  refine inShape_bind (P := fun _ b' => b.Onward b')
    (hdetach.trans (putCell_onward hdetach.shape hp last)) fun _ b₃ hput => ?_
  refine inShape_bind (P := fun copy b' => b.Onward b' ∧ b'.arena.MayHold copy)
    ⟨hput.trans (createElement_onward hput.shape .html tag.name tag.attrs),
      createElement_mayHold b₃ .html hname tag.attrs⟩ fun copy b₄ ⟨hnew, hcopy⟩ => ?_
  have hmoved := hnew.shape.bare.refl.moveChildren hcopy block
  have hfilled := hmoved.append (hmoved.mayHold _ (hnew.arena.mayHold _ hblock)) copy
  refine inShape_bind (P := fun _ b' => b₄.Onward b') (hnew.shape.grow hfilled)
    fun _ b₅ hfilled => ?_
  refine inShape_bind (P := fun _ b' => b₄.Onward b')
    (hfilled.trans (relist_onward hfilled.shape mark formatting (.element copy tag) hname))
    fun _ b₆ hlisted => ?_
  -- what is open then is the copy, or was open before
  refine (removeFromStack_keeps formatting b₆ hlisted.shape).of_stack fun i hi => ?_
  obtain ⟨j, hj, hi⟩ := List.mem_flatMap.1 hi
  have hopen : b₆.arena.MayHold j := hlisted.shape.stack j (List.mem_filter.1 hj).1
  split at hi
  · rcases List.mem_pair.1 hi with rfl | rfl
    · exact hlisted.arena.mayHold _ hcopy
    · exact hopen
  · exact List.mem_singleton.1 hi ▸ hopen

theorem mem_of_recentFormatting {i : Nat} {tag : Tag} (h : (i, tag) ∈ recentFormatting b) :
    .element i tag ∈ b.formatting := by
  obtain ⟨f, hf, heq⟩ := List.mem_filterMap.1 h
  cases f with
  | border => cases heq
  | element j t =>
      cases heq
      exact (List.takeWhile_sublist _).subset hf

@[spec] theorem adoptOnce_keeps (name : String) : Keeps (adoptOnce name) := by
  refine keeps_of fun b h => ?_
  rw [adoptOnce, run_get]
  generalize hfind : (recentFormatting b).find? _ = found
  rcases found with _ | ⟨formatting, tag⟩
  · exact closeNamed_keeps name b h
  have hname : tag.name ≠ "img" :=
    h.formatting _ (mem_of_recentFormatting (List.mem_of_find?_eq_some hfind))
  show Builder.InShape ((ite _ _ _ : BuildM Bool) b).2
  split
  · exact removeFormatting_keeps formatting b h
  show Builder.InShape ((ite _ _ _ : BuildM Bool) b).2
  split
  · exact h
  generalize hblock : ((b.stack.takeWhile (· != formatting)).filter fun i =>
    isSpecial ((b.arena.element? i).getD default)).getLast? = found
  have houtside : ∀ i ∈ (b.stack.dropWhile (· != formatting)).tail, b.arena.MayHold i :=
    fun i hi => h.stack i ((List.dropWhile_sublist _).subset (List.mem_of_mem_tail hi))
  rcases found with _ | block
  · exact removeFormatting_keeps formatting _ (h.of_stack houtside)
  · have hmem := List.mem_of_getLast? hblock
    refine overlap_keeps h hname (h.stack block ?_) ?_ _ _
    · exact (List.takeWhile_sublist _).subset (List.mem_filter.1 hmem).1
    · exact (h.of_stack houtside).headD

@[spec] theorem adoptRounds_keeps (name : String) (n : Nat) : Keeps (adoptRounds name n) := by
  induction n with
  | zero => exact keeps_of fun _ h => h
  | succ n ih => mvcgen [adoptRounds, ih]

@[spec] theorem adopt_keeps (name : String) : Keeps (adopt name) := by
  mvcgen [adopt]

end BuildM

end Html

end ChapterAssembly
