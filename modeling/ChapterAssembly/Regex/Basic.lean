/-
**Regular expressions.**

Main definitions:

* `ChapterAssembly.Regex.Expr` — an expression;
* `Regex.Look` — a condition on a place between characters, with `Look.holds`;
* `ChapterAssembly.Regex` — an expression with the names of its groups.
-/

import ChapterAssembly.Text.Property

set_option relaxedAutoImplicit false
set_option autoImplicit false

namespace ChapterAssembly

namespace Regex

/-- A condition on a place between characters. -/
inductive Look where
  | textStart
  | textEnd
  | lineStart
  | lineEnd
  /-- The start of a line, where a carriage return also ends lines. -/
  | lineStartReturn
  | lineEndReturn
  /-- The border of a word, of ASCII characters only if `ascii`. -/
  | border (ascii : Bool)
  | noBorder (ascii : Bool)
  | wordStart (ascii : Bool)
  | wordEnd (ascii : Bool)
  /-- No word character precedes. -/
  | wordStartHalf (ascii : Bool)
  /-- No word character follows. -/
  | wordEndHalf (ascii : Bool)
deriving Repr, DecidableEq, BEq

/-- The character is one that words consist of. -/
def inWord (ascii : Bool) (c : Char) : Bool :=
  if ascii then c.isAlphanum || c == '_' else Text.isWord c

/-- The condition holds between the character `before` and the character `after`, where nothing
stands before the text and after it. -/
def Look.holds (before after : Option Char) : Look → Bool
  | textStart => before.isNone
  | textEnd => after.isNone
  | lineStart => before.all (· == '\n')
  | lineEnd => after.all (· == '\n')
  | lineStartReturn =>
    before.all fun c => c == '\n' || (c == '\r' && after != some '\n')
  | lineEndReturn =>
    after.all fun c => c == '\r' || (c == '\n' && before != some '\r')
  | border a => before.any (inWord a) != after.any (inWord a)
  | noBorder a => before.any (inWord a) == after.any (inWord a)
  | wordStart a => !before.any (inWord a) && after.any (inWord a)
  | wordEnd a => before.any (inWord a) && !after.any (inWord a)
  | wordStartHalf a => !before.any (inWord a)
  | wordEndHalf a => !after.any (inWord a)

/-- An expression. -/
inductive Expr where
  | empty
  /-- One character of a set. -/
  | char (s : CharSet)
  | look (l : Look)
  | seq (a b : Expr)
  /-- The first of two that leads to a match. -/
  | alt (a b : Expr)
  /-- At least `min` times, at most `max` times if that is given; as often as possible if
  `greedy`, else as seldom. -/
  | repeated (min : Nat) (max : Option Nat) (greedy : Bool) (a : Expr)
  /-- A group whose match is remembered. -/
  | group (index : Nat) (a : Expr)
deriving Repr, Inhabited

namespace Expr

/-- An expression matches the empty text. -/
def nullable : Expr → Bool
  | empty => true
  | char _ => false
  | look _ => true
  | seq a b => a.nullable && b.nullable
  | alt a b => a.nullable || b.nullable
  | repeated min _ _ a => min == 0 || a.nullable
  | group _ a => a.nullable

/-- How much room an expression takes once its repetitions are written out. -/
def cost : Expr → Nat
  | empty => 0
  | char s =>
    if s.ranges.all (·.2 < 128) then 40 else 64 * s.ranges.size + 64
  | look _ => 32
  | seq a b => a.cost + b.cost
  | alt a b => a.cost + b.cost + 56
  | repeated min max _ a => (max.getD (min + 1)) * (a.cost + 56) + 56
  | group _ a => a.cost + 64

/-- Expressions one after another. -/
def seqAll : List Expr → Expr
  | [] => empty
  | [a] => a
  | a :: as => seq a (seqAll as)

/-- The first of some expressions that leads to a match. -/
def altAll : List Expr → Expr
  | [] => empty
  | [a] => a
  | a :: as => alt a (altAll as)

end Expr

end Regex

/-- A regular expression: what it matches, how many groups it has, and their names. -/
structure Regex where
  expr : Regex.Expr
  groups : Nat
  names : List (Text × Nat)
deriving Repr, Inhabited

end ChapterAssembly
