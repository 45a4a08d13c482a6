/-
**Drawings and formulas in a page.**

Inside `svg` and `math` other rules hold: names keep their own spelling, no end tag is implied, and
a tag that clearly belongs to the page ends the drawing.

Main definitions:

* `BuildM.isForeign` — whether the rules for drawings and formulas apply to an item;
* `BuildM.foreignStep` — those rules;
* `BuildM.enterForeign` — the start of a drawing or formula.
-/

import ChapterAssembly.Html.Builder.State

set_option relaxedAutoImplicit false
set_option autoImplicit false

namespace ChapterAssembly

namespace Html

namespace BuildM

open Builder

/-- The names of drawing elements that are not in lower case, as `lower:Proper`. -/
def svgTags : List (String × String) :=
  ["altGlyph", "altGlyphDef", "altGlyphItem", "animateColor", "animateMotion", "animateTransform",
    "clipPath", "feBlend", "feColorMatrix", "feComponentTransfer", "feComposite",
    "feConvolveMatrix", "feDiffuseLighting", "feDisplacementMap", "feDistantLight",
    "feDropShadow", "feFlood", "feFuncA", "feFuncB", "feFuncG", "feFuncR", "feGaussianBlur",
    "feImage", "feMerge", "feMergeNode", "feMorphology", "feOffset", "fePointLight",
    "feSpecularLighting", "feSpotLight", "feTile", "feTurbulence", "foreignObject", "glyphRef",
    "linearGradient", "radialGradient", "textPath"].map fun s => (s.toLower, s)

/-- The names of drawing attributes that are not in lower case. -/
def svgAttributes : List (String × String) :=
  ["attributeName", "attributeType", "baseFrequency", "baseProfile", "calcMode", "clipPathUnits",
    "diffuseConstant", "edgeMode", "filterUnits", "glyphRef", "gradientTransform",
    "gradientUnits", "kernelMatrix", "kernelUnitLength", "keyPoints", "keySplines", "keyTimes",
    "lengthAdjust", "limitingConeAngle", "markerHeight", "markerUnits", "markerWidth",
    "maskContentUnits", "maskUnits", "numOctaves", "pathLength", "patternContentUnits",
    "patternTransform", "patternUnits", "pointsAtX", "pointsAtY", "pointsAtZ", "preserveAlpha",
    "preserveAspectRatio", "primitiveUnits", "refX", "refY", "repeatCount", "repeatDur",
    "requiredExtensions", "requiredFeatures", "specularConstant", "specularExponent",
    "spreadMethod", "startOffset", "stdDeviation", "stitchTiles", "surfaceScale",
    "systemLanguage", "tableValues", "targetX", "targetY", "textLength", "viewBox", "viewTarget",
    "xChannelSelector", "yChannelSelector", "zoomAndPan"].map fun s => (s.toLower, s)

/-- A tag with its names spelt as a vocabulary spells them. -/
def respell (space : Space) (tag : Tag) : Tag :=
  match space with
  | .html => tag
  | .mathml =>
    { tag with attrs := tag.attrs.map fun (k, v) =>
        (if k == "definitionurl" then "definitionURL" else k, v) }
  | .svg =>
    { tag with
      name := (svgTags.lookup tag.name).getD tag.name
      attrs := tag.attrs.map fun (k, v) => ((svgAttributes.lookup k).getD k, v) }

/-- Opens an element of another vocabulary; one that closes itself stays closed. -/
def insertForeign (space : Space) (tag : Tag) : BuildM Unit := do
  let i ← placeElement space tag
  if !tag.selfClosing then push i

/-- Opens a drawing or a formula. -/
def enterForeign (space : Space) (tag : Tag) : BuildM Unit :=
  insertForeign space (match space with
    | .svg => { respell .svg tag with name := tag.name }
    | _ => respell space tag)

/-- The element that decides between the rules: the current one, or the context of a fragment in
place of its root. -/
def deciding : BuildM Element := do
  let b ← get
  match b.stack, b.context with
  | [_], some name => return { order := 0, name }
  | _, _ => currentElement

/-- The rules for drawings and formulas apply to an item. -/
def isForeign (item : Item) : BuildM Bool := do
  let b ← get
  if b.stack.isEmpty then return false
  let e ← deciding
  if e.space == .html then return false
  return match item with
    | .ending => false
    | .spaces _ | .words _ | .nul => !(holdsFormulaText e || holdsHtml e)
    | .startTag tag =>
      !((holdsFormulaText e && tag.name != "mglyph" && tag.name != "malignmark") || holdsHtml e ||
        (e.space == .mathml && e.name == "annotation-xml" && tag.name == "svg"))
    | _ => true

/-- The tags that end a drawing or formula. -/
def breaksOut (tag : Tag) : Bool :=
  ["b", "big", "blockquote", "body", "br", "center", "code", "dd", "div", "dl", "dt", "em", "embed",
    "h1", "h2", "h3", "h4", "h5", "h6", "head", "hr", "i", "img", "li", "listing", "menu", "meta",
    "nobr", "ol", "p", "pre", "ruby", "s", "small", "span", "strong", "strike", "sub", "sup",
    "table", "tt", "u", "ul", "var"].contains tag.name ||
    (tag.name == "font" && tag.attrs.any fun (k, _) => ["color", "face", "size"].contains k)

/-- Ends the drawing or formula; the item counts for the page. -/
def breakOut : BuildM Outcome := do
  popWhile fun e => !(e.space == .html || holdsFormulaText e || holdsHtml e)
  return .like (← get).mode

/-- An end tag in a drawing or formula: closes the innermost element of its name; an HTML element
in between sends it to the page. -/
def foreignEndTag (name : String) : BuildM Outcome := do
  let b ← get
  return ← search b name true b.stack
where
  /-- The search, from the innermost element on. -/
  search (b : Builder) (name : String) (first : Bool) : List Nat → BuildM Outcome
    | [] | [_] => return .done
    | i :: rest => do
      let e := (b.arena.element? i).getD default
      if !first && e.space == .html then return .like b.mode
      if e.name.toLower == name then
        set { b with stack := rest }
        return .done
      search b name false rest

/-- The rules for drawings and formulas. -/
def foreignStep (item : Item) : BuildM Outcome := do
  match item with
  | .nul => insertText ['\uFFFD']; return .done
  | .spaces t => insertText t; return .done
  | .words t => framesetNotOk; insertText t; return .done
  | .comment t => insertComment t; return .done
  | .startTag tag =>
    if breaksOut tag then breakOut
    else
      let e ← deciding
      insertForeign e.space (respell e.space tag)
      return .done
  | .endTag name =>
    if name == "br" || name == "p" then breakOut else foreignEndTag name
  | _ => return .done

end BuildM

end Html

end ChapterAssembly
