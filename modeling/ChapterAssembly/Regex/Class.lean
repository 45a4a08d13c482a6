/-
**Classes of characters in regular expressions.**

Main definitions:

* `Regex.perlClass` — digits, blanks and word characters;
* `Regex.posixClass?` — the classes that brackets and colons name;
* `Regex.unicodeClass?` — the classes of Unicode properties.
-/

import ChapterAssembly.Regex.Basic
import ChapterAssembly.Text.CaseFolding
import ChapterAssembly.Text.Script

set_option relaxedAutoImplicit false
set_option autoImplicit false

namespace ChapterAssembly

namespace Regex

/-- All characters. -/
def anyChar : CharSet := .scalars

/-- The digits, blanks or word characters, by the letter that names them. -/
def perlClass (unicode : Bool) (c : Char) : CharSet :=
  if unicode then
    match c with
    | 'd' => Category.chars .nd
    | 's' => Property.whiteSpace
    | _ => Property.word
  else
    match c with
    | 'd' => .range 48 57
    | 's' => .ofRanges [(9, 13), (32, 32)]
    | _ => .ofRanges [(48, 57), (65, 90), (95, 95), (97, 122)]

/-- The classes that brackets and colons name. -/
def posixClass? (name : String) : Option CharSet :=
  (match name with
    | "alnum" => some [(48, 57), (65, 90), (97, 122)]
    | "alpha" => some [(65, 90), (97, 122)]
    | "ascii" => some [(0, 127)]
    | "blank" => some [(9, 9), (32, 32)]
    | "cntrl" => some [(0, 31), (127, 127)]
    | "digit" => some [(48, 57)]
    | "graph" => some [(33, 126)]
    | "lower" => some [(97, 122)]
    | "print" => some [(32, 126)]
    | "punct" => some [(33, 47), (58, 64), (91, 96), (123, 126)]
    | "space" => some [(9, 13), (32, 32)]
    | "upper" => some [(65, 90)]
    | "word" => some [(48, 57), (65, 90), (95, 95), (97, 122)]
    | "xdigit" => some [(48, 57), (65, 70), (97, 102)]
    | _ => none).map CharSet.ofRanges

/-! ### Unicode properties -/

/-- The names of the general categories in full. -/
def categoryNames : List (String × List Category) := [
  ("uppercaseletter", [.lu]), ("lowercaseletter", [.ll]), ("titlecaseletter", [.lt]),
  ("modifierletter", [.lm]), ("otherletter", [.lo]), ("nonspacingmark", [.mn]),
  ("spacingmark", [.mc]), ("enclosingmark", [.me]), ("decimalnumber", [.nd]), ("digit", [.nd]),
  ("letternumber", [.nl]), ("othernumber", [.no]), ("connectorpunctuation", [.pc]),
  ("dashpunctuation", [.pd]), ("openpunctuation", [.ps]), ("closepunctuation", [.pe]),
  ("initialpunctuation", [.pi]), ("finalpunctuation", [.pf]), ("otherpunctuation", [.po]),
  ("mathsymbol", [.sm]), ("currencysymbol", [.sc]), ("modifiersymbol", [.sk]),
  ("othersymbol", [.so]), ("spaceseparator", [.zs]), ("lineseparator", [.zl]),
  ("paragraphseparator", [.zp]), ("control", [.cc]), ("cntrl", [.cc]), ("format", [.cf]),
  ("privateuse", [.co]), ("unassigned", [.cn]),
  ("casedletter", [.lu, .ll, .lt]), ("letter", Category.group 'l'), ("mark", Category.group 'm'),
  ("combiningmark", Category.group 'm'), ("number", Category.group 'n'),
  ("punctuation", Category.group 'p'), ("punct", Category.group 'p'),
  ("symbol", Category.group 's'), ("separator", Category.group 'z'), ("other", Category.group 'c'),
  ("l", Category.group 'l'), ("m", Category.group 'm'), ("n", Category.group 'n'),
  ("p", Category.group 'p'), ("s", Category.group 's'), ("z", Category.group 'z'),
  ("c", Category.group 'c'), ("lc", [.lu, .ll, .lt]), ("lu", [.lu]), ("ll", [.ll]), ("lt", [.lt]),
  ("lm", [.lm]), ("lo", [.lo]), ("mn", [.mn]), ("mc", [.mc]), ("me", [.me]), ("nd", [.nd]),
  ("nl", [.nl]), ("no", [.no]), ("pc", [.pc]), ("pd", [.pd]), ("ps", [.ps]), ("pe", [.pe]),
  ("pi", [.pi]), ("pf", [.pf]), ("po", [.po]), ("sm", [.sm]), ("sc", [.sc]), ("sk", [.sk]),
  ("so", [.so]), ("zs", [.zs]), ("zl", [.zl]), ("zp", [.zp]), ("cc", [.cc]), ("cf", [.cf]),
  ("co", [.co]), ("cn", [.cn])]

/-- The characters of a general category, by its name. -/
def categoryClass? (name : String) : Option CharSet :=
  match name with
  | "any" => some anyChar
  | "assigned" => some (Category.chars .cn).compl
  | "ascii" => some (.range 0 127)
  | _ => (categoryNames.lookup name).map fun ks => (Category.charsOf ks).inter .scalars

/-- A name as it is compared: without case, blanks, hyphens, underscores and a leading `is`. -/
def plainName (t : Text) : String :=
  let t := (Text.asciiLower t).filter fun c =>
    c.toNat < 128 && c != ' ' && c != '-' && c != '_'
  match t with
  | ['i', 's', 'c'] => "isc"
  | 'i' :: 's' :: r => String.ofList r
  | _ => String.ofList t

/-- The class of a property that is named alone. -/
def namedClass? (name : Text) : Option CharSet :=
  let name := plainName name
  let property := if ["cf", "sc", "lc"].contains name then none else Property.named? name
  match property with
  | some s => some s
  | none =>
    match categoryClass? name with
    | some s => some s
    | none => Script.named? name

/-- The class of a property with a value. -/
def valuedClass? (property value : Text) : Option CharSet :=
  match plainName property with
  | "gc" | "generalcategory" => categoryClass? (plainName value)
  | "sc" | "script" | "scx" | "scriptextensions" => Script.named? (plainName value)
  | _ => none

/-- The class in braces behind `\p`. -/
def unicodeClass? (t : Text) : Option CharSet :=
  match Text.cutAt? "!=".toList t with
  | some (p, v) => (valuedClass? p v).map CharSet.compl
  | none =>
    match t.span (· != ':') with
    | (p, _ :: v) => valuedClass? p v
    | _ =>
      match t.span (· != '=') with
      | (p, _ :: v) => valuedClass? p v
      | _ => namedClass? t

end Regex

end ChapterAssembly
