/-
**Domain names in ASCII.**

A domain name is brought into one form: its characters are mapped, the result is composed, and
each label that then still holds other characters than ASCII ones is written in Punycode.  A name
is refused when a character has no place in a name, when a label starts with a mark, when an
invisible joiner stands where nothing joins, or when directions of writing mix.

Main definitions:

* `Domain.mapText?` — the mapping of characters;
* `Domain.Label` — a label with its two forms;
* `Domain.joinersOk`, `Domain.directionOk` — the rules for joiners and directions;
* `Domain.toAscii?` — the ASCII form of a domain name.
-/

import ChapterAssembly.Text.Category
import ChapterAssembly.Text.Utf8
import ChapterAssembly.Url.DomainTable
import ChapterAssembly.Url.Punycode

set_option relaxedAutoImplicit false
set_option autoImplicit false

namespace ChapterAssembly

namespace Domain

open DomainTable

def isAscii (t : Text) : Bool := t.all fun c => c.toNat < 128

/-- The characters of a name as they are compared; `none` if one has no place in a name. -/
def mapText? (t : Text) : Option Text :=
  (t.mapM fun c =>
    match mapped? c with
    | some r => some r
    | none =>
      if ignored.contains c then some [] else if valid.contains c then some [c] else none).map
    List.flatten

/-- The ASCII characters that no host name may hold. -/
def forbidden (c : Char) : Bool :=
  c.toNat ≤ 0x20 || c.toNat == 0x7F || "#/:<>?@[\\]^|%".toList.contains c

/-- A label: its characters and its ASCII form. -/
structure Label where
  chars : Text
  ascii : Text
deriving Repr

/-- The combining class of the viramas. -/
def viramaClass : Nat := 9

/-- Whether an invisible non-joiner may stand between `before` (reversed) and `after`. -/
def joinsAcross (before after : Text) : Bool :=
  let left := before.dropWhile transparent.contains
  let right := after.dropWhile transparent.contains
  (left.head?.any fun c => leftJoining.contains c || dualJoining.contains c) &&
    (right.head?.any fun c => rightJoining.contains c || dualJoining.contains c)

/-- Every invisible joiner or non-joiner follows a virama, or is a non-joiner between letters that
would join.  `before` is what precedes, reversed. -/
def joinersOk (before : Text) : Text → Bool
  | [] => true
  | c :: t =>
    let afterVirama := before.head?.any fun d => Normal.combiningClass d.toNat == viramaClass
    let ok :=
      if c == '\u200C' then afterVirama || joinsAcross before t
      else if c == '\u200D' then afterVirama
      else true
    ok && joinersOk (c :: before) t

/-- The last direction class of a label, marks left aside. -/
def lastDirection (t : Text) : Option Direction :=
  ((t.map direction).reverse.dropWhile (· == .nsm)).head?

/-- The rule for a label of a name in which something is written from right to left. -/
def directionOk (t : Text) : Bool :=
  match t.map direction with
  | [] => true
  | d :: ds =>
    let all := d :: ds
    let last := lastDirection t
    if d == .r || d == .al then
      (all.all ([.r, .al, .an, .en, .es, .cs, .et, .on, .bn, .nsm] : List Direction).contains) &&
        (last.any ([.r, .al, .en, .an] : List Direction).contains) &&
        !(all.contains .en && all.contains .an)
    else if d == .l then
      (all.all ([.l, .en, .es, .cs, .et, .on, .bn, .nsm] : List Direction).contains) &&
        (last.any ([.l, .en] : List Direction).contains)
    else false

/-- Whether a label holds something written from right to left. -/
def isRightToLeft (t : Text) : Bool :=
  t.any fun c => 128 ≤ c.toNat && ([.r, .al, .an] : List Direction).contains (direction c)

def startsWithMark (t : Text) : Bool :=
  t.head?.any fun c => 128 ≤ c.toNat && Category.marks.contains c

/-- The label written by an already mapped text, which may be in Punycode. -/
def label? (t : Text) : Option Label :=
  match Text.afterPrefix? "xn--".toList t with
  | some p =>
    match Punycode.decode? p with
    | none => none
    | some u =>
      if !isAscii p || isAscii u || u.normal ≠ u || mapText? u ≠ some u || u.any forbidden ||
          startsWithMark u then none
      else some ⟨u, t⟩
  | none =>
    if isAscii t then some ⟨t, t⟩
    else if startsWithMark t then none
    else some ⟨t, "xn--".toList ++ Punycode.encode t⟩

/-- The ASCII form of a domain name. -/
def toAscii? (t : Text) : Option Text := do
  let mapped ← mapText? t
  let labels ← (Text.splitOnChar '.' mapped.normal).mapM label?
  if labels.any (fun l => l.chars.any forbidden || !joinersOk [] l.chars) then none
  else if labels.any (fun l => isRightToLeft l.chars) &&
      !labels.all (fun l => directionOk l.chars) then none
  else some (Text.joinWith ['.'] (labels.map (·.ascii)))

end Domain

end ChapterAssembly
