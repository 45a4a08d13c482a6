/-
**Selectors.**

A selector describes elements by their names, attributes and places in the page.

Main definitions:

* `ChapterAssembly.Selector` — a list of alternatives;
* `Selector.Complex` — compounds of simple selectors, joined by combinators;
* `Selector.Simple` — one condition on an element.
-/

import ChapterAssembly.Text.Basic

set_option relaxedAutoImplicit false
set_option autoImplicit false

namespace ChapterAssembly

namespace Selector

/-- A condition on the value of an attribute. -/
inductive ValueTest where
  | present
  | equals (v : Text)
  /-- One of the words of the value. -/
  | hasWord (v : Text)
  /-- The value, or its part before a hyphen. -/
  | dashed (v : Text)
  | startsWith (v : Text)
  | endsWith (v : Text)
  | contains (v : Text)
deriving Repr, DecidableEq, BEq

/-- How values are compared. -/
inductive CaseRule where
  /-- Some attributes of HTML ignore case, the others do not. -/
  | byName
  | exact
  | ignoring
deriving Repr, DecidableEq, BEq

/-- Where an element stands among its siblings: at `step * n + offset` for some `n`. -/
structure Position where
  step : Int
  offset : Int
  /-- Counted from the last sibling. -/
  fromEnd : Bool
  /-- Only siblings of the same name are counted. -/
  ofType : Bool
deriving Repr, DecidableEq, BEq

/-- How the element on the left of a compound relates to the one on its right. -/
inductive Combinator where
  | descendant
  | child
  | nextSibling
  | laterSibling
deriving Repr, DecidableEq, BEq

mutual

/-- One condition on an element. -/
inductive Simple where
  /-- The element has the name. -/
  | name (n : String)
  | any
  /-- The element belongs to no vocabulary. -/
  | unqualified
  | id (v : Text)
  | hasClass (v : Text)
  | attribute (name : String) (test : ValueTest) (case : CaseRule)
  | position (p : Position)
  | onlyOne (ofType : Bool)
  | root
  | empty
  /-- No alternative matches the element. -/
  | no (alternatives : List Complex)

/-- Compounds joined by combinators; the last one is about the element itself. -/
inductive Complex where
  | compound (conditions : List Simple)
  | joined (left : Complex) (by_ : Combinator) (conditions : List Simple)

end

end Selector

/-- A selector: an element matches it if it matches one of the alternatives. -/
structure Selector where
  alternatives : List Selector.Complex

end ChapterAssembly
