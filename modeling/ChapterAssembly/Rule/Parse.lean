/-
**Reading rules.**

A rule is written as alternatives between `||`.  An alternative is a selector, perhaps an extract
behind `@`, and perhaps a substitution: a pattern behind `##`, and its replacement behind another
`##`.

Main definitions:

* `Rule.splitExtract` — a selector and the extract behind it;
* `Rule.splitSubstitution` — the head of an alternative, its pattern and its replacement;
* `Rule.parse` — the rule of a text, or the error of its first faulty alternative.
-/

import ChapterAssembly.Rule.Basic

set_option relaxedAutoImplicit false
set_option autoImplicit false

namespace ChapterAssembly

namespace Rule

/-- A selector and the extract behind its last `@`.  An `@` in front of a closing bracket belongs
to an attribute selector. -/
def splitExtract (head : Text) : Text × Option Text :=
  let tail := (head.reverse.takeWhile (· != ']')).reverse
  match Text.cutAtLast? '@' tail with
  | some (before, extract) => (head.take (head.length - tail.length) ++ before, some extract)
  | none => (head, none)

/-- The head of an alternative and, behind `##`, a pattern with its replacement. -/
def splitSubstitution (alternative : Text) : Text × Option (Text × Text) :=
  match Text.cutAt? "##" alternative with
  | none => (alternative, none)
  | some (head, tail) =>
    match Text.cutAt? "##" tail with
    | some (pattern, replacement) => (head, some (pattern, replacement))
    | none => (head, some (tail, []))

/-- The substitution of a pattern and a replacement. -/
def Substitution.parse (pattern replacement : Text) : Except RuleError Substitution :=
  match Regex.parse pattern with
  | some regex => .ok ⟨regex, replacement⟩
  | none => .error (.regex pattern)

/-- The target that the head of an alternative names. -/
def Target.parse (head : Text) : Except RuleError Target :=
  let (selector, extract) := splitExtract (Text.trim head)
  let selector := Text.trim selector
  if selector.isEmpty then
    match extract with
    | none => .ok .content
    | some e => .ok (.root (.ofName e))
  else
    match Selector.parse selector with
    | some s => .ok (.select s (.ofName (extract.getD [])))
    | none => .error (.selector selector RuleError.noSelector)

/-- An alternative; its pattern is looked at before its selector. -/
def Alternative.parse (alternative : Text) : Except RuleError Alternative :=
  match splitSubstitution alternative with
  | (head, none) => (Target.parse head).map fun target => { target }
  | (head, some (pattern, replacement)) =>
    match Substitution.parse pattern replacement with
    | .error e => .error e
    | .ok s => (Target.parse head).map fun target => { target, substitution? := some s }

/-- The rule of a text. -/
def parse (rule : Text) : Except RuleError Rule :=
  if Text.isBlankText rule then .error (.blank rule)
  else
    match (Text.splitOnText "||" rule).mapM Alternative.parse with
    | .ok alternatives => .ok ⟨alternatives⟩
    | .error e => .error e

end Rule

end ChapterAssembly
