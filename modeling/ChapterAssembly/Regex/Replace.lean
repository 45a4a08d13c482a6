/-
**Replacing matches.**

Main definitions:

* `Regex.Template` — what is written in place of a match, with references to its groups;
* `Regex.replaceAll` — a text with all matches replaced.
-/

import ChapterAssembly.Regex.Parse
import ChapterAssembly.Regex.Program

set_option relaxedAutoImplicit false
set_option autoImplicit false

namespace ChapterAssembly

namespace Regex

/-! ### Templates -/

/-- A part of a template. -/
inductive TemplatePart where
  | literal (c : Char)
  | number (n : Nat)
  | name (t : Text)

/-- What is written in place of a match. -/
abbrev Template := List TemplatePart

/-- A character that may stand in a reference without braces. -/
def isReferenceChar (c : Char) : Bool := c.isAlphanum || c == '_'

/-- The group that a reference means: a number, with or without a sign, or a name. -/
def reference (t : Text) : TemplatePart :=
  let digits := match t with
    | '+' :: r => r
    | _ => t
  match Text.decimal? digits with
  | some n => if n < UInt64.size then .number n else .name t
  | none => .name t

/-- The reference behind a dollar sign, with how many characters it takes; `none` if the dollar sign
stands for itself. -/
def reference? (t : Text) : Option (TemplatePart × Nat) :=
  match t with
  | '$' :: _ => some (.literal '$', 1)
  | '\x7b' :: r =>
    let body := r.takeWhile (· != '\x7d')
    if body.length < r.length then some (reference body, body.length + 2) else none
  | _ =>
    let body := t.takeWhile isReferenceChar
    if body.isEmpty then none else some (reference body, body.length)

/-- The template of a text; `skipped` characters belong to the reference before. -/
def templateFrom : Nat → Text → Template
  | _, [] => []
  | n + 1, _ :: t => templateFrom n t
  | 0, c :: t =>
    match c, reference? t with
    | '$', some (part, n) => part :: templateFrom n t
    | _, _ => .literal c :: templateFrom 0 t

/-- The template of a text. -/
def template (t : Text) : Template := templateFrom 0 t

/-! ### Matches -/

/-- The text that a group matched, in the text that was searched. -/
def Slots.group (s : Slots) (t : Text) (i : Nat) : Text :=
  match s.getD (2 * i) none, s.getD (2 * i + 1) none with
  | some a, some b => (t.drop a).take (b - a)
  | _, _ => []

/-- A template filled in for a match. -/
def fill (names : List (Text × Nat)) (s : Slots) (t : Text) (parts : Template) : Text :=
  parts.flatMap fun part => match part with
    | .literal c => [c]
    | .number i => s.group t i
    | .name n => match names.lookup n with
      | some i => s.group t i
      | none => []

/-- The place where a match begins. -/
def Slots.first (s : Slots) : Nat := (s.getD 0 none).getD 0

/-- The place behind a match. -/
def Slots.last (s : Slots) : Nat := (s.getD 1 none).getD 0

/-- Writes a text with its matches replaced, in at most `rounds` rounds.  `before` precedes `t`, and
`closed` says that a match ends in front of `t`: an empty match there does not count, and the
search goes on one character later. -/
def replaceFrom (write : Slots → Text → Text) (p : Program) :
    Nat → Option Char → Bool → Text → Text
  | 0, _, _, t => t
  | rounds + 1, before, closed, t =>
    match p.search before t with
    | none => t
    | some s =>
      if closed && s.last = 0 then
        match t with
        | [] => []
        | c :: rest =>
          match p.search (some c) rest with
          | none => t
          | some s =>
            c :: rest.take s.first ++ write s rest ++
              replaceFrom write p rounds ((rest.take s.last).getLast?.or (some c)) true
                (rest.drop s.last)
      else
        t.take s.first ++ write s t ++
          replaceFrom write p rounds ((t.take s.last).getLast?.or before) true (t.drop s.last)

/-- A text with all matches of a regular expression replaced by a template. -/
def replaceAll (r : Regex) (replacement : Text) (t : Text) : Text :=
  let parts := template replacement
  replaceFrom (fill r.names · · parts) (program r) (t.length + 2) none false t

end Regex

end ChapterAssembly
