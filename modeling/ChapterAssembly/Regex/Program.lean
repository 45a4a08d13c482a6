/-
**Running regular expressions.**

An expression is compiled to states from its end backwards, so that each state knows the one that
follows.  A search keeps a list of threads, the preferred ones first; a state that a preferred
thread has reached at a place is not entered again there, which bounds the work at each place by
the number of states.

Main definitions:

* `Regex.Instr`, `Regex.Expr.compile` — states, and the states of an expression;
* `Regex.Program.closure` — the states that threads reach without a character;
* `Regex.Program.search` — the first match in a text, as the places where its groups begin and end.
-/

import ChapterAssembly.Regex.Basic

set_option relaxedAutoImplicit false
set_option autoImplicit false

namespace ChapterAssembly

namespace Regex

/-- A state of matching, with the state that follows. -/
inductive Instr where
  /-- A character of the set has to follow. -/
  | char (s : CharSet) (next : Nat)
  | look (l : Look) (next : Nat)
  /-- Two ways to go on, the first preferred. -/
  | fork (first second : Nat)
  /-- The place is remembered. -/
  | save (slot : Nat) (next : Nat)
  | accept
deriving Inhabited

/-- The states of a program. -/
abbrev Code := Array Instr

/-- A new state, in front of the others. -/
def Code.emit (code : Code) (i : Instr) : Nat × Code := (code.size, code.push i)

/-- A fork between going into an expression and going on. -/
def forkOn (greedy : Bool) (enter skip : Nat) : Instr :=
  if greedy then .fork enter skip else .fork skip enter

namespace Expr

/-- At most `n` times what `one` compiles; each time can be the last. -/
def compileUpTo (one : Nat → Code → Nat × Code) (greedy : Bool) (last : Nat) :
    Nat → Code → Nat × Code
  | 0, code => (last, code)
  | n + 1, code =>
    let (rest, code) := compileUpTo one greedy last n code
    let (enter, code) := one rest code
    code.emit (forkOn greedy enter last)

/-- Exactly `n` times what `one` compiles. -/
def compileTimes (one : Nat → Code → Nat × Code) : Nat → Nat → Code → Nat × Code
  | 0, next, code => (next, code)
  | n + 1, next, code =>
    let (rest, code) := compileTimes one n next code
    one rest code

/-- Any number of times what `one` compiles: the entry is the fork that each time comes back to. -/
def compileLoop (one : Nat → Code → Nat × Code) (greedy : Bool) (next : Nat) (code : Code) :
    Nat × Nat × Code :=
  let (loop, code) := code.emit .accept
  let (enter, code) := one loop code
  (loop, enter, code.set! loop (forkOn greedy enter next))

/-- The states of an expression in front of the state `next`, with the state it begins at. -/
def compile : Expr → Nat → Code → Nat × Code
  | empty, next, code => (next, code)
  | char s, next, code => code.emit (.char s next)
  | look l, next, code => code.emit (.look l next)
  | seq a b, next, code =>
    let (rest, code) := b.compile next code
    a.compile rest code
  | alt a b, next, code =>
    let (second, code) := b.compile next code
    let (first, code) := a.compile next code
    code.emit (.fork first second)
  | repeated min (some max) greedy a, next, code =>
    let (rest, code) := compileUpTo a.compile greedy next (max - min) code
    compileTimes a.compile min rest code
  | repeated 0 none greedy a, next, code =>
    let (loop, enter, code) := compileLoop a.compile greedy next code
    if a.nullable then code.emit (forkOn greedy enter next) else (loop, code)
  | repeated (min + 1) none greedy a, next, code =>
    let (_, enter, code) := compileLoop a.compile greedy next code
    compileTimes a.compile min enter code
  | group i a, next, code =>
    let (close, code) := code.emit (.save (2 * i + 1) next)
    let (enter, code) := a.compile close code
    code.emit (.save (2 * i) enter)

end Expr

/-- A compiled expression: its states, and the one that it starts at. -/
structure Program where
  code : Code
  start : Nat

/-- The program of a regular expression; the whole match is its group 0. -/
def program (r : Regex) : Program :=
  let (start, code) := (Expr.group 0 r.expr).compile 0 #[.accept]
  ⟨code, start⟩

/-- The places where groups begin and end, two slots for each group. -/
abbrev Slots := Array (Option Nat)

/-- A thread: the state it is in, and the places it remembers. -/
structure Thread where
  state : Nat
  slots : Slots

/-- A thread that waits for a character. -/
structure Waiting where
  set : CharSet
  next : Nat
  slots : Slots

/-- A place remembered in a slot. -/
def Slots.put (s : Slots) (slot place : Nat) : Slots :=
  if slot < s.size then s.set! slot (some place)
  else (s ++ Array.replicate (slot - s.size) none).push (some place)

/-- What threads come to at a place: those that wait for a character, the preferred ones first, and
the match that ends there, which no thread after it can beat. -/
structure Reached where
  waiting : List Waiting
  matched : Option Slots

/-- Follows threads to the states that take a character, between the characters `before` and
`after`, in at most `fuel` steps.  `seen` are the states entered here so far. -/
def Program.follow (p : Program) (before after : Option Char) (place : Nat) :
    Nat → Array Bool → List Waiting → List Thread → Reached
  | 0, _, acc, _ => ⟨acc.reverse, none⟩
  | _, _, acc, [] => ⟨acc.reverse, none⟩
  | fuel + 1, seen, acc, t :: ts =>
    if seen.getD t.state true then p.follow before after place fuel seen acc ts
    else
      let seen := seen.set! t.state true
      match p.code[t.state]? with
      | none => p.follow before after place fuel seen acc ts
      -- the threads behind this one are less preferred, so they end here
      | some .accept => ⟨acc.reverse, some t.slots⟩
      | some (.char s next) =>
        p.follow before after place fuel seen (⟨s, next, t.slots⟩ :: acc) ts
      | some (.look l next) =>
        p.follow before after place fuel seen acc
          (if l.holds before after then ⟨next, t.slots⟩ :: ts else ts)
      | some (.fork a b) =>
        p.follow before after place fuel seen acc (⟨a, t.slots⟩ :: ⟨b, t.slots⟩ :: ts)
      | some (.save slot next) =>
        p.follow before after place fuel seen acc (⟨next, t.slots.put slot place⟩ :: ts)

/-- The states that threads reach without a character.  Each state is entered once and adds at
most two threads. -/
def Program.closure (p : Program) (before after : Option Char) (place : Nat)
    (threads : List Thread) : Reached :=
  p.follow before after place (2 * p.code.size + threads.length + 1)
    (Array.replicate p.code.size false) [] threads

/-- The threads that go on when a character is taken. -/
def advance (c : Char) (ws : List Waiting) : List Thread :=
  ws.filterMap fun w => if w.set.contains c then some ⟨w.next, w.slots⟩ else none

/-- Searches a text for the first match, and among those that begin there for the preferred one.
`best` is the match so far; while there is none, a thread starts at each place. -/
def Program.searchFrom (p : Program) (before : Option Char) (place : Nat)
    (threads : List Thread) (best : Option Slots) : Text → Option Slots
  | [] =>
    let threads := if best.isNone then threads ++ [⟨p.start, #[]⟩] else threads
    (p.closure before none place threads).matched.or best
  | c :: rest =>
    let threads := if best.isNone then threads ++ [⟨p.start, #[]⟩] else threads
    let r := p.closure before (some c) place threads
    let best := r.matched.or best
    match best, r.waiting with
    | some s, [] => some s
    | best, ws => p.searchFrom (some c) (place + 1) (advance c ws) best rest

/-- The first match in a text that the character `before` precedes. -/
def Program.search (p : Program) (before : Option Char) (t : Text) : Option Slots :=
  p.searchFrom before 0 [] none t

end Regex

end ChapterAssembly
