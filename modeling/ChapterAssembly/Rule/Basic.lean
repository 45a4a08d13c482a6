/-
**Rules.**

A rule says where on a page something stands.  It has alternatives; each selects elements (or the
whole page, or its plain text), extracts something from each of them, and perhaps replaces what a
regular expression matches in it.

Main definitions:

* `ChapterAssembly.Rule`, `Rule.Alternative`, `Rule.Target`, `Rule.Extract`, `Rule.Substitution`;
* `ChapterAssembly.RuleError` — why a text is no rule, with its wording.
-/

import ChapterAssembly.Regex.Replace
import ChapterAssembly.Selector.Match

set_option relaxedAutoImplicit false
set_option autoImplicit false

namespace ChapterAssembly

namespace Rule

/-- What is taken from an element. -/
inductive Extract where
  /-- All text in the element, trimmed. -/
  | text
  /-- The texts that stand directly in the element. -/
  | ownText
  /-- What the element holds, as HTML. -/
  | html
  /-- The element, as HTML. -/
  | outerHtml
  | attribute (name : Text)
deriving Repr, DecidableEq

/-- The extract of a name. -/
def Extract.ofName (name : Text) : Extract :=
  let name := Text.trim name
  if name = "" ∨ name = "text" then .text
  else if name = "ownText" then .ownText
  else if name = "html" then .html
  else if name = "outerHtml" ∨ name = "all" then .outerHtml
  else .attribute name

/-- What an alternative looks at. -/
inductive Target where
  /-- The text of the page as it is. -/
  | content
  /-- The outermost element of the page. -/
  | root (extract : Extract)
  /-- The elements that a selector matches. -/
  | select (selector : Selector) (extract : Extract)

/-- A replacement of what a regular expression matches. -/
structure Substitution where
  regex : Regex
  replacement : Text

/-- One alternative of a rule. -/
structure Alternative where
  target : Target
  substitution? : Option Substitution := none

end Rule

/-- A rule: the first alternative that leads to something counts. -/
structure Rule where
  alternatives : List Rule.Alternative

/-- Why a text is no rule. -/
inductive RuleError where
  /-- The text is no selector, with the reason. -/
  | selector (text reason : Text)
  /-- The text is no regular expression. -/
  | regex (pattern : Text)
  /-- The rule is blank. -/
  | blank (rule : Text)
  /-- A failure outside rules proper. -/
  | other (message : Text)
deriving Repr, DecidableEq

/-- The reason that is given for a text that is no selector.  It is the same for all: a parser of
selectors would say what it stumbled over. -/
def RuleError.noSelector : Text := "not a selector"

/-- The reason that is given for a text that is no regular expression.  It is the same for all, and
does not point into the text. -/
def RuleError.noRegex : Text := "not a regular expression"

/-- The wording of an error. -/
def RuleError.message : RuleError → Text
  | .selector s reason => "Invalid selector '" ++ s ++ "': " ++ reason
  | .regex p => "Invalid regex '" ++ p ++ "': " ++ RuleError.noRegex
  | .blank r => "Invalid rule '" ++ r ++ "'"
  | .other m => m

end ChapterAssembly
