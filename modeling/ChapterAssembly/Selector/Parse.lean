/-
**Reading selectors.**

The grammar: alternatives between commas; in each, compounds joined by combinators; in a compound
an optional name and then further conditions, without blanks between them.

Main definitions:

* `Selector.parse` — the selector of a text; `none` if the text is none.
-/

import ChapterAssembly.Selector.Basic
import ChapterAssembly.Selector.Token

set_option relaxedAutoImplicit false
set_option autoImplicit false

namespace ChapterAssembly

namespace Selector

def skipSpace (ts : List Token) : List Token :=
  ts.dropWhile fun t => match t with
    | .space => true
    | _ => false

/-! ### Positions -/

/-- The digits behind `n-` as a negative number. -/
def dashDigits? (t : Text) : Option Int :=
  match t with
  | n :: '-' :: ds =>
    if n = 'n' ∨ n = 'N' then (Text.decimal? ds).map fun k => Token.clamp (-(k : Int)) else none
  | _ => none

/-- A number without sign, and what follows. -/
def unsigned? (sign : Int) (ts : List Token) : Option (Int × List Token) :=
  match skipSpace ts with
  | .number false (some b) none :: rest => some (sign * b, rest)
  | _ => none

/-- The part behind `n` in a position, and what follows. -/
def offset? (ts : List Token) : Option (Int × List Token) :=
  match skipSpace ts with
  | .delim '+' :: rest => unsigned? 1 rest
  | .delim '-' :: rest => unsigned? (-1) rest
  | .number true (some b) none :: rest => some (b, rest)
  | _ => some (0, ts)

/-- A step and what is written behind it. -/
def stepped? (step : Int) (unit : Text) (ts : List Token) : Option ((Int × Int) × List Token) :=
  let unit := Text.asciiLower unit
  if unit = "n" then (offset? ts).map fun (b, rest) => ((step, b), rest)
  else if unit = "n-" then (unsigned? (-1) ts).map fun (b, rest) => ((step, b), rest)
  else (dashDigits? unit).map fun b => ((step, b), ts)

/-- A position: its step and offset, and what follows. -/
def nth? (ts : List Token) : Option ((Int × Int) × List Token) :=
  match skipSpace ts with
  | .number _ (some b) none :: rest => some ((0, b), rest)
  | .number _ (some a) (some u) :: rest => stepped? a u rest
  | .ident w :: rest =>
    let w := Text.asciiLower w
    if w = "even" then some ((2, 0), rest)
    else if w = "odd" then some ((2, 1), rest)
    else
      match w with
      | '-' :: u => stepped? (-1) u rest
      | _ => stepped? 1 w rest
  | .delim '+' :: .ident u :: rest => stepped? 1 u rest
  | _ => none

/-! ### Attributes -/

/-- A name in an attribute condition, how its values are compared unless the condition says so, and
what follows.  Behind a bar for its vocabulary a name stands for attributes whose values count as
they are. -/
def attributeName? (ts : List Token) : Option (String × CaseRule × List Token) :=
  match skipSpace ts with
  | .ident _ :: .delim '|' :: _ => none
  | .ident n :: rest => some (String.ofList n, .byName, rest)
  | .delim '*' :: .delim '|' :: .ident n :: rest => some (String.ofList n, .exact, rest)
  | .delim '|' :: .ident n :: rest => some (String.ofList n, .byName, rest)
  | _ => none

/-- How a comparison tests a value. -/
def comparison? (t : Token) (v : Text) : Option ValueTest :=
  match t with
  | .delim '=' => some (.equals v)
  | .comparison '~' => some (.hasWord v)
  | .comparison '|' => some (.dashed v)
  | .comparison '^' => some (.startsWith v)
  | .comparison '$' => some (.endsWith v)
  | .comparison '*' => some (.contains v)
  | _ => none

/-- What may stand behind the value: how values are compared. -/
def caseRule? (standard : CaseRule) (ts : List Token) : Option CaseRule :=
  match skipSpace ts with
  | [] => some standard
  | .ident w :: rest =>
    if !(skipSpace rest).isEmpty then none
    else if Text.asciiLower w = "i" then some .ignoring
    else if Text.asciiLower w = "s" then some .exact
    else none
  | _ => none

/-- The condition in square brackets. -/
def attribute? (ts : List Token) : Option Simple :=
  match attributeName? ts with
  | none => none
  | some (name, standard, rest) =>
    match skipSpace rest with
    | [] => some (.attribute name .present standard)
    | op :: rest =>
      match skipSpace rest with
      | .ident v :: rest | .string v :: rest =>
        match comparison? op v, caseRule? standard rest with
        | some test, some rule => some (.attribute name test rule)
        | _, _ => none
      | _ => none

/-! ### Compounds and combinators -/

/-- The conditions of a simple pseudo-class. -/
def pseudoClass? (name : Text) : Option Simple :=
  let name := Text.asciiLower name
  let at_ := fun (fromEnd ofType : Bool) => Simple.position ⟨0, 1, fromEnd, ofType⟩
  if name = "first-child" then some (at_ false false)
  else if name = "last-child" then some (at_ true false)
  else if name = "first-of-type" then some (at_ false true)
  else if name = "last-of-type" then some (at_ true true)
  else if name = "only-child" then some (.onlyOne false)
  else if name = "only-of-type" then some (.onlyOne true)
  else if name = "root" ∨ name = "scope" then some .root
  else if name = "empty" then some .empty
  else none

/-- The kind of position that a pseudo-class with an argument counts. -/
def positionKind? (name : Text) : Option (Bool × Bool) :=
  let name := Text.asciiLower name
  if name = "nth-child" then some (false, false)
  else if name = "nth-last-child" then some (true, false)
  else if name = "nth-of-type" then some (false, true)
  else if name = "nth-last-of-type" then some (true, true)
  else none

/-- The name in front of a compound, and what follows. -/
def typeName? (ts : List Token) : Option (List Simple × List Token) :=
  match ts with
  | .ident _ :: .delim '|' :: _ => none
  | .ident n :: rest => some ([.name (String.ofList n)], rest)
  | .delim '*' :: .delim '|' :: .ident n :: rest => some ([.name (String.ofList n)], rest)
  | .delim '*' :: .delim '|' :: .delim '*' :: rest => some ([.any], rest)
  | .delim '*' :: .delim '|' :: _ => none
  | .delim '*' :: rest => some ([.any], rest)
  | .delim '|' :: .ident n :: rest => some ([.unqualified, .name (String.ofList n)], rest)
  | .delim '|' :: .delim '*' :: rest => some ([.unqualified], rest)
  | .delim '|' :: _ => none
  | _ => some ([], ts)

/-- The combinator in front of a compound, and what follows; blanks alone are one if something
follows them. -/
def combinator? (ts : List Token) : Option (Combinator × List Token) :=
  let rest := skipSpace ts
  match rest with
  | [] => none
  | .delim '>' :: rest => some (.child, rest)
  | .delim '+' :: rest => some (.nextSibling, rest)
  | .delim '~' :: rest => some (.laterSibling, rest)
  | _ => if rest.length < ts.length then some (.descendant, rest) else none

/-- The texts between commas. -/
def splitCommas (ts : List Token) : List (List Token) :=
  ts.foldr (fun t parts =>
    match t, parts with
    | .comma, _ => [] :: parts
    | _, p :: ps => (t :: p) :: ps
    | _, [] => [[t]]) [[]]

/-- Reads conditions up to what is none.  `negation` reads the argument of `:not`. -/
def conditions (negation : List Token → Option (List Complex)) (done : List Simple) :
    Nat → List Token → Option (List Simple × List Token)
  | 0, ts => some (done.reverse, ts)
  | n + 1, ts =>
    let go := fun (s : Simple) rest => conditions negation (s :: done) n rest
    match ts with
    | .hash v true :: rest => go (.id v) rest
    | .delim '.' :: .ident v :: rest => go (.hasClass v) rest
    | .delim '.' :: _ => none
    | .block .square content :: rest =>
      match attribute? content with
      | some s => go s rest
      | none => none
    | .colon :: .ident name :: rest =>
      match pseudoClass? name with
      | some s => go s rest
      | none => none
    | .colon :: .function name args :: rest =>
      match positionKind? name with
      | some (fromEnd, ofType) =>
        match nth? args with
        | some ((step, offset), more) =>
          if (skipSpace more).isEmpty then go (.position ⟨step, offset, fromEnd, ofType⟩) rest
          else none
        | none => none
      | none =>
        if Text.asciiLower name = "not" then
          match negation args with
          | some cs => go (.no cs) rest
          | none => none
        else none
    | .colon :: _ => none
    | _ => some (done.reverse, ts)

/-- Reads a compound: its conditions and what follows; it has one condition at least. -/
def compound? (negation : List Token → Option (List Complex)) (ts : List Token) :
    Option (List Simple × List Token) :=
  match typeName? (skipSpace ts) with
  | none => none
  | some (start, rest) =>
    match conditions negation [] (rest.length + 1) rest with
    | none => none
    | some (more, rest) => if start.isEmpty && more.isEmpty then none else some (start ++ more, rest)

/-- Reads the compounds behind `left`, to the end, in at most `n` rounds. -/
def complexFrom (negation : List Token → Option (List Complex)) (left : Complex) :
    Nat → List Token → Option Complex
  | 0, _ => none
  | n + 1, ts =>
    match combinator? ts with
    | none => if (skipSpace ts).isEmpty then some left else none
    | some (c, rest) =>
      match compound? negation rest with
      | none => none
      | some (conditions, rest) => complexFrom negation (.joined left c conditions) n rest

/-- Reads compounds and combinators to the end. -/
def complex? (negation : List Token → Option (List Complex)) (ts : List Token) : Option Complex :=
  match compound? negation ts with
  | none => none
  | some (conditions, rest) => complexFrom negation (.compound conditions) (rest.length + 1) rest

/-- Reads alternatives in which `:not` is nested at most `depth` deep. -/
def alternatives? : Nat → List Token → Option (List Complex)
  | 0, _ => none
  | depth + 1, ts => (splitCommas ts).mapM (complex? (alternatives? depth))

/-- The selector of a text; no brackets nest deeper than the text is long. -/
def parse (t : Text) : Option Selector :=
  (alternatives? (t.length + 1) (Token.scan t)).map fun cs => ⟨cs⟩

end Selector

end ChapterAssembly
