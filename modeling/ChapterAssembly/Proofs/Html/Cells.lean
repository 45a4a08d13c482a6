/-
**Cells that hold others.**

While a page is being read its cells are moved about, texts are lengthened, and elements gain
attributes.  None of this turns an image into something else, and as long as nothing is put into an
image, no image holds anything.

Main definitions:

* `Arena.MayHold` — a cell is there and is no image;
* `Arena.Bare` — no image holds anything;
* `Arena.Onward` — a later arena is bare, and what might hold others still may;
* `Node.Regular` — a node as reading makes them.

Main results:

* `Arena.Onward.append`, `Arena.Onward.appendText`, `Arena.Onward.insertBefore`,
  `Arena.Onward.insertTextBefore`, `Arena.Onward.moveChildren` — **every operation leads onward**, if
  what it puts its cells into may hold others;
* `Arena.Bare.regular` — the nodes of a bare arena are regular: images hold nothing, and fragments
  stand in templates only.
-/

import ChapterAssembly.Html.Arena

set_option relaxedAutoImplicit false
set_option autoImplicit false

namespace ChapterAssembly

namespace Html

/-- The cell is an image. -/
def Cell.isImage (c : Cell) : Bool :=
  match c.content with
  | .element e => e.name == "img"
  | _ => false

namespace Arena

/-- A cell may hold others: it is there, and is no image. -/
def MayHold (a : Arena) (i : Nat) : Prop := ∃ c, a.cells[i]? = some c ∧ c.isImage = false

/-- **No image holds anything.** -/
def Bare (a : Arena) : Prop :=
  ∀ (i : Nat) (c : Cell), a.cells[i]? = some c → c.isImage = true → c.children = #[]

variable {a : Arena} {i j k p : Nat} {content : CellContent}

theorem getElem?_cells_create : (a.create content).2.cells[i]? =
    if i = a.cells.size then some { content } else a.cells[i]? :=
  Array.getElem?_push

/-- A new cell that is no image may hold others. -/
theorem mayHold_create (h : Cell.isImage { content } = false) :
    (a.create content).2.MayHold (a.create content).1 :=
  ⟨{ content }, getElem?_cells_create.trans (if_pos rfl), h⟩

theorem bare_empty : empty.Bare := by
  intro i c hc _
  cases i with
  | zero =>
      cases hc
      rfl
  | succ i => cases hc

theorem mayHold_empty : empty.MayHold 0 := ⟨{ content := .page }, rfl, rfl⟩

/-- A cell in which another has its place holds something, and so is no image. -/
theorem Bare.mayHold_of_place? (h : a.Bare) (hk : a.place? k = some (p, j)) : a.MayHold p := by
  obtain ⟨q, -, hq⟩ := Option.bind_eq_some_iff.1 hk
  obtain ⟨n, hn, heq⟩ := Option.map_eq_some_iff.1 hq
  obtain ⟨rfl, rfl⟩ := Prod.mk.inj heq
  cases hc : a.cells[q]? with
  | none => simp [children, cell?, hc] at hn
  | some c =>
      refine ⟨c, hc, Bool.eq_false_iff.2 fun himage => ?_⟩
      simp [children, cell?, hc, h q c hc himage] at hn

/-! ### Operations -/

/-- **What operations lead to**: no image holds anything, and what might hold others still may. -/
structure Onward (a a' : Arena) : Prop where
  bare : a'.Bare
  mayHold : ∀ i, a.MayHold i → a'.MayHold i

theorem Bare.refl (h : a.Bare) : a.Onward a := ⟨h, fun _ hi => hi⟩

namespace Onward

variable {a a' a'' : Arena} {i j k p : Nat} {t : Text} {content : CellContent}

theorem trans (h : a.Onward a') (h' : a'.Onward a'') : a.Onward a'' :=
  ⟨h'.bare, fun i hi => h'.mayHold i (h.mayHold i hi)⟩

/-! ### Changing a cell, and new cells -/

/-- A cell that is changed stays an image or none; if it may not hold others, the change must not
give it children. -/
theorem modify (h : a.Onward a') {f : Cell → Cell} (hf : ∀ c, (f c).isImage = c.isImage)
    (hc : a'.MayHold i ∨ ∀ c, c.children = #[] → (f c).children = #[]) :
    a.Onward (a'.modify i f) := by
  have hcells : ∀ j, (a'.modify i f).cells[j]? =
      if i = j then (a'.cells[j]?).map f else a'.cells[j]? :=
    fun j => Array.getElem?_modify
  refine h.trans ⟨?bare, ?mayHold⟩
  case bare =>
    intro j c hj himage
    rw [hcells] at hj
    by_cases hij : i = j
    · subst hij
      rw [if_pos rfl] at hj
      obtain ⟨d, hd, rfl⟩ := Option.map_eq_some_iff.1 hj
      rw [hf] at himage
      rcases hc with ⟨e, he, hplain⟩ | hc
      · obtain rfl : e = d := Option.some.inj (he.symm.trans hd)
        exact absurd himage (by simp [hplain])
      · exact hc d (h.bare i d hd himage)
    · rw [if_neg hij] at hj
      exact h.bare j c hj himage
  case mayHold =>
    rintro j ⟨c, hj, hplain⟩
    by_cases hij : i = j
    · exact ⟨f c, by rw [hcells, if_pos hij, hj, Option.map_some], (hf c).trans hplain⟩
    · exact ⟨c, by rw [hcells, if_neg hij, hj], hplain⟩

/-- A cell that may hold others may be changed in any way. -/
theorem fill (h : a.Onward a') (hp : a'.MayHold p) {f : Cell → Cell}
    (hf : ∀ c, (f c).isImage = c.isImage := by intro c; rfl) : a.Onward (a'.modify p f) :=
  h.modify hf (.inl hp)

/-- Images stay bare if no children are added. -/
theorem alter (h : a.Onward a') {f : Cell → Cell}
    (hc : ∀ c, c.children = #[] → (f c).children = #[])
    (hf : ∀ c, (f c).isImage = c.isImage := by intro c; rfl) : a.Onward (a'.modify i f) :=
  h.modify hf (.inr hc)

theorem create (h : a.Onward a') (content : CellContent) : a.Onward (a'.create content).2 := by
  refine h.trans ⟨?bare, ?mayHold⟩
  case bare =>
    intro i c hi himage
    rw [getElem?_cells_create] at hi
    by_cases hnew : i = a'.cells.size
    · rw [if_pos hnew] at hi
      obtain rfl := Option.some.inj hi
      rfl
    · rw [if_neg hnew] at hi
      exact h.bare i c hi himage
  case mayHold =>
    rintro i ⟨c, hi, hplain⟩
    have hlt : i < a'.cells.size := (Array.getElem?_eq_some_iff.1 hi).1
    exact ⟨c, by rw [getElem?_cells_create, if_neg (Nat.ne_of_lt hlt), hi], hplain⟩

/-! ### Putting cells into others -/

theorem append (h : a.Onward a') (hp : a'.MayHold p) (k : Nat) : a.Onward (a'.append p k) :=
  (h.fill hp).alter fun _ hc => hc

theorem insertAt (h : a.Onward a') (hp : a'.MayHold p) (n k : Nat) :
    a.Onward (a'.insertAt p n k) :=
  (h.fill hp).alter fun _ hc => hc

theorem detach (h : a.Onward a') (k : Nat) : a.Onward (a'.detach k) := by
  rw [Arena.detach]
  cases a'.parent? k with
  | none => exact h
  | some p =>
      refine (h.alter fun c hc => ?_).alter fun _ hc => hc
      simp [hc]

theorem insertBefore (h : a.Onward a') (j k : Nat) : a.Onward (a'.insertBefore j k) := by
  rw [Arena.insertBefore]
  cases hplace : a'.place? j with
  | none => exact h
  | some place => exact h.insertAt (h.bare.mayHold_of_place? hplace) _ _

/-! ### Texts -/

theorem extendText (h : a.Onward a') (k : Nat) (t : Text) : a.Onward (a'.extendText k t) := by
  refine h.alter (fun c hc => ?_) fun c => ?_
  · cases hcontent : c.content <;> exact hc
  · cases hcontent : c.content <;> simp [Cell.isImage, hcontent]

theorem appendText (h : a.Onward a') (hp : a'.MayHold p) (t : Text) :
    a.Onward (a'.appendText p t) := by
  have hnew := h.create (.text [t])
  have hput := hnew.append (h.bare.refl.create _ |>.mayHold p hp) (a'.create (.text [t])).1
  rw [Arena.appendText]
  cases (a'.children p).back? with
  | none => exact hput
  | some last =>
      show a.Onward (if a'.isText last then _ else _)
      split
      · exact h.extendText _ _
      · exact hput

theorem insertTextBefore (h : a.Onward a') (j : Nat) (t : Text) :
    a.Onward (a'.insertTextBefore j t) := by
  have hnew := h.create (.text [t])
  rw [Arena.insertTextBefore]
  cases hplace : a'.place? j with
  | none => exact h
  | some place =>
      have hp := h.bare.refl.create (.text [t]) |>.mayHold _ (h.bare.mayHold_of_place? hplace)
      have hput := hnew.insertAt hp place.2 (a'.create (.text [t])).1
      dsimp only
      split
      · split
        · exact h.extendText _ _
        · exact hput
      · exact hput

/-! ### Moving children, and attributes -/

/-- Telling cells about their parent changes nothing else. -/
theorem foldl_modify (h : a.Onward a') (moved : Array Nat) : a.Onward
    (moved.foldl (fun a i => a.modify i fun c => { c with parent := some p }) a') := by
  rw [← Array.foldl_toList]
  induction moved.toList generalizing a' with
  | nil => exact h
  | cons x xs ih => exact ih (h.alter fun _ hc => hc)

theorem moveChildren (h : a.Onward a') (hp : a'.MayHold p) (j : Nat) :
    a.Onward (a'.moveChildren j p) := by
  have hleft : a'.Onward (a'.modify j fun c => { c with children := #[] }) :=
    h.bare.refl.alter fun _ _ => rfl
  exact h.trans ((hleft.fill (hleft.mayHold p hp)).foldl_modify _)

theorem addMissingAttributes (h : a.Onward a') (k : Nat) (attrs : Attributes) :
    a.Onward (a'.addMissingAttributes k attrs) := by
  refine h.alter (fun c hc => ?_) fun c => ?_
  · cases hcontent : c.content <;> exact hc
  · cases hcontent : c.content <;> simp [Cell.isImage, hcontent]

end Onward

end Arena

/-! ### Trees -/

/-- **A node as reading makes them**: no image holds anything, and fragments stand in templates
only. -/
inductive Node.Regular : Node → Prop
  | text (t : Text) : Regular (.text t)
  | comment (t : Text) : Regular (.comment t)
  | element {e : Element} {children : List Node} (himage : e.name = "img" → children = [])
      (hchildren : ∀ n ∈ children, Regular n) : Regular (.element e children)
  | template {e : Element} {nodes : List Node} (htemplate : e.name = "template")
      (hnodes : ∀ n ∈ nodes, Regular n) : Regular (.element e [.fragment nodes])

namespace Arena

variable {a : Arena}

theorem Bare.nodesIn_eq_nil (h : a.Bare) {i : Nat} {e : Element}
    (hc : a.content? i = some (.element e)) (himage : e.name = "img") (depth : Nat) :
    a.nodesIn depth i = [] := by
  obtain ⟨c, hcell, hcontent⟩ := Option.map_eq_some_iff.1 hc
  have hnone : c.children = #[] := h i c hcell (by simp [Cell.isImage, hcontent, himage])
  cases depth with
  | zero => rfl
  | succ depth => simp [nodesIn, children, hcell, hnone]

/-- **If no image holds anything, the nodes of the tree are regular.** -/
theorem Bare.regular (h : a.Bare) (depth i : Nat) : ∀ n ∈ a.nodesIn depth i, n.Regular := by
  induction depth generalizing i with
  | zero => simp [nodesIn]
  | succ depth ih =>
      intro n hn
      obtain ⟨j, -, hj⟩ := List.mem_filterMap.1 hn
      rw [nodeWith?] at hj
      split at hj
      · next e hc =>
          obtain rfl := Option.some.inj hj
          by_cases htemplate : e.isHtml "template" = true
          · rw [if_pos htemplate]
            refine .template ?_ (ih j)
            simp only [Element.isHtml, Bool.and_eq_true, beq_iff_eq] at htemplate
            exact htemplate.2
          · rw [if_neg htemplate]
            exact .element (fun himage => h.nodesIn_eq_nil hc himage depth) (ih j)
      · obtain rfl := Option.some.inj hj
        exact .text _
      · obtain rfl := Option.some.inj hj
        exact .comment _
      · cases hj

end Arena

end Html

end ChapterAssembly
