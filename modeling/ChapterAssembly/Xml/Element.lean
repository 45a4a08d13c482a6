/-
**XML elements.**

An element has a name, the rest of its tag, and content: character data and elements.  The reader
ends with the root element, whatever follows it.

Character data is seen in *runs*: the data between two tags, which comments do not end.  A run loses
the blank characters at its two ends, unless the data there is literal, and a run of which nothing
is left counts for nothing.

Main definitions:

* `ChapterAssembly.Xml.Node`, `Xml.Element` — elements and their content;
* `Xml.rootOf?`, `Xml.root?` — the root element of some tokens and of a text;
* `Xml.items?` — content as runs and elements;
* `Element.text?` — the text of an element that has no other content.

Main results:

* `Xml.rootOf?_open`, `Xml.rootOf?_close` — how tags build elements.
-/

import ChapterAssembly.Xml.Token

set_option relaxedAutoImplicit false
set_option autoImplicit false

namespace ChapterAssembly

namespace Xml

/-- Content of an element. -/
inductive Node where
  /-- Character data with references. -/
  | raw (t : Text)
  /-- Character data in which nothing is markup. -/
  | literal (t : Text)
  | element (name tag : Text) (content : List Node)
deriving Inhabited

/-- An element: its name, the rest of its tag, and its content. -/
structure Element where
  name : Text
  tag : Text := []
  content : List Node := []
deriving Inhabited

/-- An element as content of another. -/
def Element.node (e : Element) : Node := .element e.name e.tag e.content

/-- An element with more content at its end. -/
def Element.push (e : Element) (n : Node) : Element := { e with content := e.content ++ [n] }

/-! ### Building -/

/-- The root element of some tokens, when some elements are open, the innermost first. -/
def rootOf? : List Element → List Token → Option Element
  | _, [] => none
  | _, .broken :: _ => none
  | [], .raw t :: ts => if t.all isSpace then rootOf? [] ts else none
  | [], .literal _ :: _ => none
  | [], .closing _ :: _ => none
  | [], .opening name tag closed :: ts =>
    if closed then some ⟨name, tag, []⟩ else rootOf? [⟨name, tag, []⟩] ts
  | e :: es, .raw t :: ts => rootOf? (e.push (.raw t) :: es) ts
  | e :: es, .literal t :: ts => rootOf? (e.push (.literal t) :: es) ts
  | e :: es, .opening name tag closed :: ts =>
    if closed then rootOf? (e.push (.element name tag []) :: es) ts
    else rootOf? (⟨name, tag, []⟩ :: e :: es) ts
  | [e], .closing name :: _ => if name = e.name then some e else none
  | e :: f :: es, .closing name :: ts =>
    if name = e.name then rootOf? (f.push e.node :: es) ts else none

/-- The root element of a text. -/
def root? (t : Text) : Option Element := rootOf? [] (tokens (withoutMark t))

theorem rootOf?_open (name : Text) (es : List Element) (ts : List Token) :
    rootOf? es (.opening name [] false :: ts) = rootOf? (⟨name, [], []⟩ :: es) ts := by
  cases es <;> simp [rootOf?]

/-- **A closing tag makes an element content of the one around it.** -/
theorem rootOf?_close (e f : Element) (es : List Element) (ts : List Token) :
    rootOf? (e :: f :: es) (.closing e.name :: ts) = rootOf? (f.push e.node :: es) ts := by
  simp [rootOf?]

theorem rootOf?_close_root (e : Element) (ts : List Token) :
    rootOf? [e] (.closing e.name :: ts) = some e := by
  simp [rootOf?]

/-! ### Runs of character data -/

/-- A run without the blank characters at its start. -/
def startRun : List Node → List Node
  | .raw t :: ns => if (trimStart t).isEmpty then startRun ns else .raw (trimStart t) :: ns
  | ns => ns

/-- The text of a run, without the blank characters at its end. -/
def runText? : List Node → Option Text
  | [] => some []
  | [.raw t] => unescape? (trimEnd t)
  | .raw t :: ns => do return (← unescape? t) ++ (← runText? ns)
  | .literal t :: ns => (runText? ns).map (t ++ ·)
  | .element _ _ _ :: ns => runText? ns

/-- What counts in the content of an element. -/
inductive Item where
  | text (t : Text)
  | element (e : Element)
deriving Inhabited

/-- A run as it counts; it does not if a reference in it has no meaning. -/
def runItems? (run : List Node) : Option (List Item) :=
  let run := startRun run
  if run.isEmpty then some [] else (runText? run).map fun t => [.text t]

/-- Content as runs and elements; `run` is the data in front of it. -/
def items? (run : List Node) : List Node → Option (List Item)
  | [] => runItems? run
  | .element name tag content :: ns => do
    return (← runItems? run) ++ .element ⟨name, tag, content⟩ :: (← items? [] ns)
  | n :: ns => items? (run ++ [n]) ns

/-- The character data of some content in front of its first element. -/
def firstRun : List Node → List Node
  | [] => []
  | .element _ _ _ :: _ => []
  | n :: ns => n :: firstRun ns

namespace Element

/-- What counts in an element. -/
def items? (e : Element) : Option (List Item) := Xml.items? [] e.content

/-- The text of an element that has no other content. -/
def text? (e : Element) : Option Text :=
  match e.items? with
  | some [] => some []
  | some [.text t] => some t
  | _ => none

/-- An element can be passed over: the data at its start has a meaning. -/
def isPassable (e : Element) : Bool := (runItems? (firstRun e.content)).isSome

/-- The name without a namespace. -/
def localName (e : Element) : Text :=
  match cut? (· == ':') e.name with
  | some (_, _, rest) => rest
  | none => e.name

/-! ### Elements without a value -/

/-- The names of namespaces that a tag declares, with what they stand for. -/
def declared (tag : Text) : List (Text × Text) :=
  ((attributes? [] tag).getD []).filterMap fun (name, value) =>
    (Text.afterPrefix? "xmlns:" name).map fun r => (r, value)

/-- The namespace in which an element says that it has no value. -/
def instanceNamespace : Text := "http://www.w3.org/2001/XMLSchema-instance"

/-- A tag says that its element has no value; `names` are the names of namespaces around it. -/
def isNil (names : List (Text × Text)) (tag : Text) : Bool :=
  ((attributes? [] tag).getD []).any fun (name, value) =>
    match cut? (· == ':') name with
    | some (space, _, rest) =>
      rest == "nil".toList && (value == "true".toList || value == "1".toList) &&
        (declared tag ++ names).lookup space == some instanceNamespace
    | none => false

end Element

end Xml

end ChapterAssembly
