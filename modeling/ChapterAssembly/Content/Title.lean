/-
**Chapter titles.**

A title rule is best effort: one that fails or finds nothing leaves the title from the table of
contents.  What it finds may end in an image element, whose source then is the review image of the
chapter, and the text before it the title.

Main definitions:

* `Content.Resolution` — the title of a chapter, and the review image if there is a new one;
* `Content.ImageMarker.read?` — a text that ends in an image element, taken apart;
* `Content.resolveTitle` — what the title rule of a source makes of a title.

Main results:

* `Content.resolveTitle_fst` — the outcome does not depend on the journal, and is `titleFrom`.
-/

import ChapterAssembly.Book.Basic
import ChapterAssembly.Notes.Journal

set_option relaxedAutoImplicit false
set_option autoImplicit false

namespace ChapterAssembly

namespace Content

/-! ### Image elements at the end of titles -/

namespace ImageMarker

/-- A character is a letter of a keyword, in either case.  The long s counts as an `s`. -/
def isLetter (letter c : Char) : Bool := c.toLower == letter || (letter == 's' && c == '\u017F')

/-- What follows a keyword at the start of a text, in whatever case it is written. -/
def afterKeyword? : Text → Text → Option Text
  | [], t => some t
  | _ :: _, [] => none
  | l :: ls, c :: t => if isLetter l c then afterKeyword? ls t else none

/-- The characters of an unquoted source. -/
def isSourceChar (c : Char) : Bool := c != '"' && c != '\'' && c != '>' && !Text.isBlank c

/-- The source that a text begins with: an equals sign, perhaps a quote, and what follows up to a
quote, a blank or the end. -/
def value? (t : Text) : Option Text :=
  match Text.trimStart t with
  | '=' :: t =>
    let t := match Text.trimStart t with
      | '"' :: t => t
      | '\'' :: t => t
      | t => t
    let v := t.takeWhile isSourceChar
    if v.isEmpty then none else some v
  | _ => none

/-- The source among the attributes of an image: the first `src` that has one. -/
def source? : Text → Option Text
  | [] => none
  | c :: t =>
    match (afterKeyword? "src" (c :: t)).bind value? with
    | some v => some v
    | none => source? t

/-- The source of the image element that a text is, without its closing bracket. -/
def element? (t : Text) : Option Text :=
  match afterKeyword? "<img" t with
  | some (c :: attributes) =>
    if Text.isBlank c && !attributes.contains '>' then source? attributes else none
  | _ => none

/-- What stands before the first image element that a text ends with, and the source of the image.
The closing bracket of the element is taken off already. -/
def split? : Text → Option (Text × Text)
  | [] => none
  | c :: t =>
    match element? (c :: t) with
    | some v => some ([], v)
    | none => (split? t).map fun (before, v) => (c :: before, v)

/-- A text that ends in an image element, as what stands before it, trimmed, and its source. -/
def read? (t : Text) : Option (Text × Text) :=
  if t.getLast? = some '>' then (split? t.dropLast).map fun (before, v) => (Text.trim before, v)
  else none

end ImageMarker

/-! ### Titles -/

/-- A title, and a review image if a new one was found. -/
structure Resolution where
  title : Text
  image : Option Text := none
deriving Repr, DecidableEq

/-- The resolution says something else than the table of contents. -/
def Resolution.changes (r : Resolution) (title : Text) (image : Option Text) : Bool :=
  r.title != title || (r.image.isSome && r.image != image)

/-- The resolution of a text that is not blank. -/
def Resolution.ofText (current found : Text) : Resolution :=
  match ImageMarker.read? found with
  | some (title, image) => { title := if title.isEmpty then current else title, image := some image }
  | none => { title := found }

/-- The title that a rule finds on a page, if it finds one that is not blank. -/
def titleFrom (rules : RuleSet) (page : Rule.Context) (current : Text) : Resolution :=
  match RuleSet.given rules.title with
  | none => { title := current }
  | some rule =>
    match (Rule.parse rule).map (·.string page) with
    | .error _ => { title := current }
    | .ok found =>
      if (Text.trim found).isEmpty then { title := current }
      else .ofText current (Text.trim found)

/-- The event that tells of a title. -/
def resolvedEvent (r : Resolution) : Event :=
  ⟨.debug, "resolved title",
    [("title", r.title), ("image", Text.option (r.image.map Text.quoted))]⟩

/-- What the title rule of a source makes of the current title of a chapter. -/
def resolveTitle (source : Text) (rules : RuleSet) (page : Rule.Context) (current : Text) :
    Noted Resolution := do
  match RuleSet.given rules.title with
  | none => return { title := current }
  | some rule =>
    match ← Noted.string rule page with
    | .error e =>
      Noted.record source .warn ("title rule failed on " ++ page.base.text ++ ": " ++ e.message)
      return { title := current }
    | .ok found =>
      let found := Text.trim found
      if found.isEmpty then return { title := current }
      else
        let r := Resolution.ofText current found
        Noted.tell (resolvedEvent r)
        return r

/-- **The outcome does not depend on the journal.** -/
theorem resolveTitle_fst (source : Text) (rules : RuleSet) (page : Rule.Context) (current : Text)
    (j : Journal) :
    (resolveTitle source rules page current j).1 = titleFrom rules page current := by
  unfold resolveTitle titleFrom
  cases RuleSet.given rules.title with
  | none => rfl
  | some rule =>
    simp only [bind, StateT.bind]
    rw [← Noted.string_fst rule page j]
    generalize Noted.string rule page j = r
    obtain ⟨r, j⟩ := r
    cases r with
    | error e => rfl
    | ok found => cases h : (Text.trim found).isEmpty <;> simp [h] <;> rfl

end Content

end ChapterAssembly
