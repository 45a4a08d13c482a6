/-
**Tokens of selectors.**

A selector falls into names, strings, numbers and delimiters; what stands in brackets is one token
that holds others.  Brackets and strings may be left open at the end.

Main definitions:

* `Selector.Token` — a token;
* `Selector.Token.scan` — the tokens of a text.
-/

import ChapterAssembly.Text.Basic

set_option relaxedAutoImplicit false
set_option autoImplicit false

namespace ChapterAssembly

namespace Selector

/-- The kinds of brackets. -/
inductive Bracket where
  | round
  | square
  | curly
deriving Repr, DecidableEq, BEq

/-- A token. -/
inductive Token where
  | ident (name : Text)
  /-- A name and the tokens in round brackets behind it. -/
  | function (name : Text) (args : List Token)
  | block (kind : Bracket) (content : List Token)
  /-- A hash sign and a name; `isName` if an identifier could be written so. -/
  | hash (name : Text) (isName : Bool)
  | string (t : Text)
  /-- A string that a line break cuts off. -/
  | badString
  /-- A number: whether a sign is written, its value if it is whole, and its unit if any. -/
  | number (signed : Bool) (value : Option Int) (unit : Option Text)
  | percentage
  | space
  | delim (c : Char)
  /-- A comparison: the delimiter in front of an equals sign. -/
  | comparison (c : Char)
  | colon
  | comma
  | other
deriving Repr

namespace Token

def isNewline (c : Char) : Bool := c == '\n' || c == '\r' || c == '\x0c'

def isSpace (c : Char) : Bool := c == ' ' || c == '\t' || isNewline c

/-- A character that may start a name. -/
def startsName (c : Char) : Bool := c.isAlpha || c == '_' || c == '\x00' || 128 ≤ c.toNat

/-- A character that may stand in a name. -/
def inName (c : Char) : Bool := startsName c || c.isDigit || c == '-'

/-- A backslash that a text follows is an escape. -/
def isEscape (after : Text) : Bool :=
  match after with
  | c :: _ => !isNewline c
  | [] => true

/-- A name starts here. -/
def nameStarts : Text → Bool
  | '-' :: c :: t => startsName c || c == '-' || (c == '\\' && isEscape t)
  | c :: t => startsName c || (c == '\\' && isEscape t)
  | [] => false

/-- The character of a code point in an escape. -/
def escapedChar (n : Nat) : Char := if n = 0 ∨ ¬ n.isValidChar then '\uFFFD' else Char.ofNat n

/-- The character of an escape behind its backslash, and how many characters it takes. -/
def escape (t : Text) : Char × Nat :=
  match t with
  | [] => ('\uFFFD', 0)
  | c :: _ =>
    let digits := (t.take 6).takeWhile fun c => (Text.hexValue? c).isSome
    if digits.isEmpty then (if c = '\x00' then '\uFFFD' else c, 1)
    else
      let n := digits.foldl (fun n c => n * 16 + (Text.hexValue? c).getD 0) 0
      let after := match t.drop digits.length with
        | '\r' :: '\n' :: _ => 2
        | c :: _ => if isSpace c then 1 else 0
        | [] => 0
      (escapedChar n, digits.length + after)

/-- A name at the start of a text, and how many characters it takes.  The first number says how
many characters belong to an escape that is read already. -/
def name : Nat → Text → Text × Nat
  | _, [] => ([], 0)
  | skip + 1, _ :: t =>
    let (n, used) := name skip t
    (n, used + 1)
  | 0, c :: t =>
    if inName c then
      let (n, used) := name 0 t
      ((if c = '\x00' then '\uFFFD' else c) :: n, used + 1)
    else if c = '\\' && isEscape t then
      let (e, k) := escape t
      let (n, used) := name k t
      (e :: n, used + 1)
    else ([], 0)

/-- A string behind its quote: its text, or nothing if a line break cuts it off, and how many
characters it takes. -/
def quoted (q : Char) : Nat → Text → Option Text × Nat
  | _, [] => (some [], 0)
  | skip + 1, _ :: t =>
    let (s, used) := quoted q skip t
    (s, used + 1)
  | 0, c :: t =>
    if c = q then (some [], 1)
    else if isNewline c then (none, 0)
    else if c = '\\' then
      match t with
      | [] => (some [], 1)
      | d :: r =>
        if isNewline d then
          let k := if d = '\r' ∧ r.head? = some '\n' then 2 else 1
          let (s, used) := quoted q k t
          (s, used + 1)
        else
          let (e, k) := escape t
          let (s, used) := quoted q k t
          (s.map (e :: ·), used + 1)
    else
      let (s, used) := quoted q 0 t
      (s.map ((if c = '\x00' then '\uFFFD' else c) :: ·), used + 1)

/-- A number starts here. -/
def numberStarts (t : Text) : Bool :=
  let t := match t with
    | '+' :: r => r
    | '-' :: r => r
    | _ => t
  match t with
  | '.' :: c :: _ => c.isDigit
  | c :: _ => c.isDigit
  | [] => false

/-- A whole number, cut to what 32 bits hold. -/
def clamp (n : Int) : Int := max (-2147483648) (min 2147483647 n)

/-- A number at the start of a text, and how many characters it takes. -/
def readNumber (t : Text) : Token × Nat :=
  let (sign, negative) := match t with
    | '+' :: _ => (1, false)
    | '-' :: _ => (1, true)
    | _ => (0, false)
  let whole := (t.drop sign).takeWhile Char.isDigit
  let used := sign + whole.length
  let fraction := match t.drop used with
    | '.' :: r =>
      let ds := r.takeWhile Char.isDigit
      if ds.isEmpty then 0 else ds.length + 1
    | _ => 0
  let used := used + fraction
  let exponent := match t.drop used with
    | c :: r =>
      if c = 'e' ∨ c = 'E' then
        let skip := if r.head? = some '+' ∨ r.head? = some '-' then 1 else 0
        let ds := (r.drop skip).takeWhile Char.isDigit
        if ds.isEmpty then 0 else 1 + skip + ds.length
      else 0
    | [] => 0
  let used := used + exponent
  let value : Int := whole.foldl (fun (n : Int) c => n * 10 + (c.toNat - 48 : Nat)) 0
  let value := clamp (if negative then -value else value)
  let value := if fraction = 0 ∧ exponent = 0 then some value else none
  match t.drop used with
  | '%' :: _ => (.percentage, used + 1)
  | r =>
    if nameStarts r then
      let (u, k) := name 0 r
      (.number (sign == 1) value (some u), used + k)
    else (.number (sign == 1) value none, used)

/-- How many characters a comment behind `/*` takes. -/
def commentLength : Text → Nat
  | [] => 0
  | '*' :: '/' :: _ => 2
  | _ :: t => commentLength t + 1

/-- A token without what stands in brackets. -/
inductive Piece where
  | token (t : Token)
  | openFunction (name : Text)
  | opening (kind : Bracket)
  | closing (kind : Bracket)
  | nothing

/-- The piece at the start of a text, and how many characters it takes. -/
def piece (t : Text) : Piece × Nat :=
  match t with
  | [] => (.nothing, 0)
  | c :: r =>
    let orDelim := fun (ok : Bool) (p : Piece × Nat) => if ok then p else (.token (.delim c), 1)
    let named := fun (_ : Unit) =>
      let (n, k) := name 0 t
      match t.drop k with
      | '(' :: _ => (Piece.openFunction n, k + 1)
      | _ => (Piece.token (.ident n), k)
    let numeric := fun (_ : Unit) =>
      let (n, k) := readNumber t
      (Piece.token n, k)
    if isSpace c then (.token .space, (t.takeWhile isSpace).length)
    else if c.isDigit then numeric ()
    else if startsName c then named ()
    else
      match c with
      | '"' | '\'' =>
        match quoted c 0 r with
        | (some s, k) => (.token (.string s), k + 1)
        | (none, k) => (.token .badString, k + 1)
      | '#' =>
        let (n, k) := name 0 r
        if nameStarts r then (.token (.hash n true), k + 1)
        else orDelim (0 < k) (.token (.hash n false), k + 1)
      | '+' | '.' => if numberStarts t then numeric () else (.token (.delim c), 1)
      | '-' =>
        if numberStarts t then numeric ()
        else if (Text.afterPrefix? "-->".toList t).isSome then (.token .other, 3)
        else if nameStarts t then named ()
        else (.token (.delim c), 1)
      | '\\' => if isEscape r then named () else (.token (.delim c), 1)
      | '*' | '$' | '^' | '|' | '~' =>
        orDelim (r.head? = some '=') (.token (.comparison c), 2)
      | '<' => orDelim (Text.afterPrefix? "!--".toList r).isSome (.token .other, 4)
      | '@' => if nameStarts r then (.token .other, 1 + (name 0 r).2) else (.token (.delim c), 1)
      | '/' =>
        match r with
        | '*' :: r => (.nothing, 2 + commentLength r)
        | _ => (.token (.delim c), 1)
      | ':' => (.token .colon, 1)
      | ',' => (.token .comma, 1)
      | ';' => (.token .other, 1)
      | '(' => (.opening .round, 1)
      | '[' => (.opening .square, 1)
      | '{' => (.opening .curly, 1)
      | ')' => (.closing .round, 1)
      | ']' => (.closing .square, 1)
      | '}' => (.closing .curly, 1)
      | _ => (.token (.delim c), 1)

/-- The pieces of a text, in at most `rounds` rounds. -/
def pieces : Nat → Text → List Piece
  | 0, _ => []
  | _, [] => []
  | rounds + 1, t =>
    let (p, k) := piece t
    p :: pieces rounds (t.drop (max 1 k))

/-- What a bracket that is still open belongs to. -/
structure Open where
  kind : Bracket
  /-- The name in front of it. -/
  name : Option Text
  /-- The tokens before it, in reverse. -/
  before : List Token

/-- The token of a bracket that is closed now, with the given content in reverse. -/
def Open.close (o : Open) (content : List Token) : List Token :=
  (match o.name with
    | some n => function n content.reverse
    | none => block o.kind content.reverse) :: o.before

/-- Puts pieces together.  `opens` are the brackets around, the innermost first, and `done` the
tokens in the innermost, in reverse.  A closing bracket of another kind is a token. -/
def nest (opens : List Open) (done : List Token) : List Piece → List Token
  | [] => (opens.foldl (fun content o => o.close content) done).reverse
  | .nothing :: ps => nest opens done ps
  | .token t :: ps => nest opens (t :: done) ps
  | .openFunction n :: ps => nest (⟨.round, some n, done⟩ :: opens) [] ps
  | .opening k :: ps => nest (⟨k, none, done⟩ :: opens) [] ps
  | .closing k :: ps =>
    match opens with
    | o :: rest => if o.kind == k then nest rest (o.close done) ps else nest opens (.other :: done) ps
    | [] => nest opens (.other :: done) ps

/-- The tokens of a text. -/
def scan (t : Text) : List Token := nest [] [] (pieces (t.length + 1) t)

end Token

end Selector

end ChapterAssembly
