/-
**In which order matches are reported.**

The elements of a page stand in document order: an element in front of what is in it, and what is in
it in front of the elements behind it.  A selector is tried on all of them, but its matches are
reported in the order in which reading has made them, and reading may put an element in front of one
that was there before.  So the matches are in document order just if they were made in that order.

Main definitions:

* `Html.Node.elements`, `Html.Page.elements` — the elements of a page, in document order;
* `Selector.inDocument`, `Selector.Reported` — the matches of a selector, in document order and as
  they are reported.

Main results:

* `Selector.Site.map_content_all` — the places of a page are those of its elements;
* `Selector.reported_select` — **what a selector reports**.
-/

import ChapterAssembly.Selector.Match

set_option relaxedAutoImplicit false
set_option autoImplicit false

namespace ChapterAssembly

/-! ### Elements in document order -/

namespace Html

mutual

/-- The elements in a node, each with the nodes in it, in document order. -/
def Node.elements : Node → List (Element × List Node)
  | .text _ => []
  | .comment _ => []
  | .element e children => (e, children) :: Node.elementsOf children
  | .fragment nodes => Node.elementsOf nodes

/-- The elements in some nodes, in document order. -/
def Node.elementsOf : List Node → List (Element × List Node)
  | [] => []
  | n :: ns => n.elements ++ Node.elementsOf ns

end

/-- The elements of a page, in document order; behind them those that reading took out of it. -/
def Page.elements (page : Page) : List (Element × List Node) :=
  Node.elementsOf page.nodes ++ Node.elementsOf page.removed

end Html

namespace Selector

open Html (Node Element)

namespace Site

/-- The element in a place, with the nodes in it. -/
def content (s : Site) : Element × List Node := (s.element, s.children)

mutual

/-- The places in a node are those of its elements, whatever the node stands in. -/
theorem map_content_inNode (within : Within Site) (before after : List (Element × List Node)) :
    ∀ n : Node, (inNode within before after n).map content = n.elements
  | .text _ => rfl
  | .comment _ => rfl
  | .element e children => by
      rw [inNode, Node.elements, List.map_cons, map_content_inNodes]
      rfl
  | .fragment nodes => by rw [inNode, Node.elements, map_content_inNodes]

/-- The places in some nodes are those of their elements. -/
theorem map_content_inNodes (within : Within Site) (before after : List (Element × List Node)) :
    ∀ ns : List Node, (inNodes within before after ns).map content = Node.elementsOf ns
  | [] => rfl
  | n :: ns => by
      rw [inNodes, Node.elementsOf]
      split
      · rw [List.map_append, map_content_inNode, map_content_inNodes]
      · rw [List.map_append, map_content_inNode, map_content_inNodes]

end

/-- **The places of a page are those of its elements, in document order.** -/
theorem map_content_all (page : Html.Page) : (all page).map content = page.elements := by
  have hremoved : ∀ ns : List Node,
      (ns.flatMap fun n => inPart .apart [n]).map content = Node.elementsOf ns := by
    intro ns
    induction ns with
    | nil => rfl
    | cons n ns ih =>
        have hone : (inPart .apart [n]).map content = n.elements := by
          rw [inPart, map_content_inNodes, Node.elementsOf, Node.elementsOf, List.append_nil]
        rw [List.flatMap_cons, List.map_append, ih, hone, Node.elementsOf]
  rw [all, List.map_append, hremoved, inPart, map_content_inNodes, Html.Page.elements]

end Site

/-! ### Matches -/

/-- The first of two places holds the element that was made first, or both hold the same. -/
def Sooner (a b : Site) : Prop := a.element.order ≤ b.element.order

instance (a b : Site) : Decidable (Sooner a b) := inferInstanceAs (Decidable (_ ≤ _))

/-- The matches of a selector, in document order. -/
def inDocument (sel : Selector) (page : Html.Page) : List Site := (Site.all page).filter sel.holds

/-- **The matches of a selector as they are reported**: all of them, the ones that were made first
in front, which is document order just if they were made in document order. -/
structure Reported (sel : Selector) (page : Html.Page) (found : List Site) : Prop where
  perm : found.Perm (sel.inDocument page)
  sooner : found.Pairwise Sooner
  eq_inDocument_iff : found = sel.inDocument page ↔ (sel.inDocument page).Pairwise Sooner

/-- **What a selector reports.** -/
theorem reported_select (sel : Selector) (page : Html.Page) :
    sel.Reported page (sel.select page) := by
  have htrans : ∀ a b c : Site, decide (Sooner a b) = true → decide (Sooner b c) = true →
      decide (Sooner a c) = true := by
    intro a b c hab hbc
    exact decide_eq_true (Nat.le_trans (of_decide_eq_true hab) (of_decide_eq_true hbc))
  have htotal : ∀ a b : Site, (decide (Sooner a b) || decide (Sooner b a)) = true := by
    intro a b
    rw [Bool.or_eq_true, decide_eq_true_eq, decide_eq_true_eq]
    exact Nat.le_total _ _
  have hsooner : (sel.select page).Pairwise Sooner :=
    (List.pairwise_mergeSort htrans htotal _).imp of_decide_eq_true
  refine ⟨List.mergeSort_perm _ _, hsooner, ?_, ?_⟩
  · intro h
    exact h ▸ hsooner
  · intro h
    exact List.mergeSort_of_pairwise (h.imp decide_eq_true)

end Selector

end ChapterAssembly
