/-
**What rules find.**

Main definitions:

* `Rule.Context` — a page to which rules are applied, with the base of its links;
* `Rule.string` — what a rule finds, as one text;
* `Rule.list`, `Rule.links` — what a rule finds, as separate texts or as links.
-/

import ChapterAssembly.Html.Print
import ChapterAssembly.Rule.Parse
import ChapterAssembly.Text.Utf8
import ChapterAssembly.Url.Link
import ChapterAssembly.Notes.Event

set_option relaxedAutoImplicit false
set_option autoImplicit false

namespace ChapterAssembly

namespace Rule

/-- A page to which rules are applied: its text and the base of its links. -/
structure Context where
  content : Text
  base : Url

/-! ### Extracts -/

/-- What an extract takes from an element with the nodes in it. -/
def Extract.apply (element : Html.Element) (children : List Html.Node) : Extract → Text
  | .text => Text.trim (Html.Node.textsOf children).flatten
  | .ownText =>
    let own := (children.filterMap Html.Node.text?).map Text.trim
    Text.joinWith [' '] (own.filter fun t => !t.isEmpty)
  | .html => Html.inner children
  | .outerHtml => (Html.Node.element element children).outer
  | .attribute name => (element.attr? (String.ofList name)).getD []

/-- What a target takes from a page. -/
def Target.values (c : Context) : Target → List Text
  | .content => [c.content]
  | .root extract =>
    match (Html.Page.parse c.content).root? with
    | some (e, children) => [extract.apply e children]
    | none => [extract.apply { order := 0, name := "html" } []]
  | .select selector extract =>
    (selector.select (Html.Page.parse c.content)).map fun s => extract.apply s.element s.children

/-- The page has to be read as HTML for a target. -/
def Target.readsPage : Target → Bool
  | .content => false
  | _ => true

/-! ### Alternatives -/

/-- A text after the substitution of an alternative, if it has one. -/
def Alternative.substitute (a : Alternative) (t : Text) : Text :=
  match a.substitution? with
  | some r => Regex.replaceAll r.regex r.replacement t
  | none => t

/-- What an alternative finds, as one text: its values a line each, replacements made throughout. -/
def Alternative.string (c : Context) (a : Alternative) : Text :=
  a.substitute (Text.joinWith ['\n'] ((a.target.values c).filter fun v => !v.isEmpty))

/-- What an alternative finds, as separate texts: each value trimmed after replacements. -/
def Alternative.list (c : Context) (a : Alternative) : List Text :=
  ((a.target.values c).map fun v => Text.trim (a.substitute v)).filter fun v => !v.isEmpty

/-! ### Rules -/

/-- What a rule finds, as one text: that of its first alternative with a text that is not blank. -/
def string (r : Rule) (c : Context) : Text :=
  ((r.alternatives.map (Alternative.string c)).find? fun v => !Text.isBlankText v).getD []

/-- What a rule finds, as separate texts: those of its first alternative with any. -/
def list (r : Rule) (c : Context) : List Text :=
  ((r.alternatives.map (Alternative.list c)).find? fun vs => !vs.isEmpty).getD []

/-- What a rule finds, as links made absolute. -/
def links (r : Rule) (c : Context) : List Text := (r.list c).map (Url.absolute c.base)

/-! ### Contexts in diagnostics -/

/-- How a rule is applied. -/
inductive Query where
  | string
  | list
  | links
deriving Repr, DecidableEq

/-- The alternatives that are tried: those up to the first that finds something. -/
def tried (found : Alternative → Bool) : List Alternative → List Alternative
  | [] => []
  | a :: as => if found a then [a] else a :: tried found as

/-- Applying a rule reads the page as HTML. -/
def readsPage (r : Rule) (q : Query) (c : Context) : Bool :=
  let found := fun a : Alternative => match q with
    | .string => !Text.isBlankText (a.string c)
    | _ => !(a.list c).isEmpty
  (tried found r.alternatives).any fun a => a.target.readsPage

/-- A context as diagnostics show it; `parsed` says whether a rule has read its page as HTML. -/
def Context.debugText (c : Context) (parsed : Bool) : Text :=
  "RuleContext \x7b base_url: " ++ Text.quoted c.base.text ++ ", content_len: " ++
    Text.ofNat (Utf8.size c.content) ++ ", parsed: " ++ Text.ofBool parsed ++ " \x7d"

end Rule

end ChapterAssembly
