/-
**Reading regular expressions.**

An expression is read from left to right.  Open groups wait on a stack, each with what was read
before it, so that every round takes one element off the text.

Main definitions:

* `Regex.Flags` — what the letters behind `(?` switch;
* `Regex.bracketClass` — a class in brackets, with its set operations;
* `Regex.parse` — the regular expression of a text; `none` if the text is none, or too large.

Not every expression is known here.  There are no classes of the properties `Age`,
`Grapheme_Cluster_Break`, `Word_Break` and `Sentence_Break`, and that of `Script_Extensions` is the
one of `Script`.  Classes in classes do not count for how deep an expression nests, and what it costs
is an estimate, so that close to the two limits a text may be taken or refused wrongly.
-/

import ChapterAssembly.Regex.Class

set_option relaxedAutoImplicit false
set_option autoImplicit false

namespace ChapterAssembly

namespace Regex

/-- What the letters behind `(?` switch. -/
structure Flags where
  caseless : Bool := false
  multiLine : Bool := false
  dotAll : Bool := false
  lazyFirst : Bool := false
  unicode : Bool := true
  returns : Bool := false
  verbose : Bool := false
deriving Repr, Inhabited

/-! ### Blanks in verbose mode -/

/-- A text without the blanks and comments in front. -/
def dropBlanks : Bool → Text → Text
  | _, [] => []
  | inComment, c :: t =>
    if inComment then dropBlanks (c != '\n') t
    else if Text.isBlank c then dropBlanks false t
    else if c == '#' then dropBlanks true t
    else c :: t

/-- What reading sees: in verbose mode blanks and comments do not count. -/
def Flags.skip (f : Flags) (t : Text) : Text := if f.verbose then dropBlanks false t else t

/-! ### Sets of characters under the flags -/

/-- A set closed under case, if case does not count. -/
def Flags.fold (f : Flags) (s : CharSet) : CharSet :=
  if !f.caseless then s
  else if f.unicode then s.foldClosure
  else
    let letters := (List.range 26).filter fun i => s.containsNat (65 + i) || s.containsNat (97 + i)
    s.union (.ofRanges (letters.flatMap fun i => [(65 + i, 65 + i), (97 + i, 97 + i)]))

/-- The complement of a set.  Without Unicode a set is one of bytes. -/
def Flags.negate (f : Flags) (s : CharSet) : CharSet :=
  if f.unicode then s.compl else s.complAll.inter (.range 0 255)

/-- A set folded and, where asked for, negated. -/
def Flags.finish (f : Flags) (negated : Bool) (s : CharSet) : CharSet :=
  if negated then f.negate (f.fold s) else f.fold s

/-- The expression of a set.  A set of bytes is one of characters only if all of them are ASCII. -/
def Flags.expr? (f : Flags) (s : CharSet) : Option Expr :=
  if f.unicode || s.ranges.all (·.2 < 128) then some (.char s) else none

/-! ### Escapes -/

/-- What an escape or a single character stands for. -/
inductive Primitive where
  | literal (c : Char)
  | set (s : CharSet)
  | look (l : Look)

/-- The characters with a meaning of their own. -/
def isMeta (c : Char) : Bool := "\\.+*?()|[]\x7b\x7d^$#&-~".toList.contains c

/-- The characters that a backslash may stand in front of without need. -/
def isEscapable (c : Char) : Bool :=
  c.toNat < 128 && !c.isAlphanum && c != '<' && c != '>'

/-- The character of a hexadecimal number. -/
def hexChar? (t : Text) : Option Char :=
  if t.isEmpty || 8 < (t.dropWhile (· == '0')).length then none
  else
    match t.foldlM (fun n c => (Text.hexValue? c).map (n * 16 + ·)) 0 with
    | some n => if n.isValidChar then some (Char.ofNat n) else none
    | none => none

/-- Takes `n` characters, skipping blanks between them as the flags say. -/
def takeChars (f : Flags) : Nat → Text → Option (Text × Text)
  | 0, t => some ([], t)
  | n + 1, t =>
    match t with
    | [] => none
    | c :: r =>
      match takeChars f n (if n = 0 then r else f.skip r) with
      | some (cs, rest) => some (c :: cs, rest)
      | none => none

/-- Takes the characters up to a closing brace. -/
def takeBraced (f : Flags) (t : Text) : Option (Text × Text) :=
  let body := t.takeWhile (· != '\x7d')
  match t.drop body.length with
  | _ :: rest =>
    let body := if f.verbose then body.filter fun c => !Text.isBlank c else body
    some (body, rest)
  | [] => none

/-- A hexadecimal escape behind its letter, which takes `digits` digits or braces. -/
def hexEscape (f : Flags) (digits : Nat) (t : Text) : Option (Char × Text) :=
  match f.skip t with
  | '\x7b' :: r =>
    match takeBraced f r with
    | some (ds, rest) => (hexChar? ds).map (·, rest)
    | none => none
  | t =>
    match takeChars f digits t with
    | some (ds, rest) => (hexChar? ds).map (·, rest)
    | none => none

/-- A property class behind its letter. -/
def propertyEscape (f : Flags) (negated : Bool) (t : Text) : Option (CharSet × Text) :=
  if !f.unicode then none
  else
    let found := match f.skip t with
      | [] => none
      | '\x7b' :: r =>
        match takeBraced f r with
        | some (name, rest) => (unicodeClass? name).map (·, rest)
        | none => none
      | '\\' :: _ => none
      | c :: r => (namedClass? [c]).map (·, r)
    match found with
    | some (s, rest) => some (f.finish negated s, rest)
    | none => none

/-- The special borders of words, behind `\b`. -/
def specialBorder? (ascii : Bool) (t : Text) : Option (Look × Text) :=
  match t with
  | '\x7b' :: r =>
    let body := r.takeWhile (· != '\x7d')
    let rest := r.drop (body.length + 1)
    if body.length = r.length then none
    else if body = "start" then some (.wordStart ascii, rest)
    else if body = "end" then some (.wordEnd ascii, rest)
    else if body = "start-half" then some (.wordStartHalf ascii, rest)
    else if body = "end-half" then some (.wordEndHalf ascii, rest)
    else none
  | _ => none

/-- The word border behind `\b`.  Braces that hold a number are a repetition; any other braces have
to name a special border. -/
def borderEscape (f : Flags) (t : Text) : Option (Primitive × Text) :=
  match specialBorder? (!f.unicode) t with
  | some (l, rest) => some (.look l, rest)
  | none =>
    match t with
    | '\x7b' :: c :: _ =>
      if c.isAlpha || c == '-' then none else some (.look (.border (!f.unicode)), t)
    | _ => some (.look (.border (!f.unicode)), t)

/-- What an escape stands for, behind its backslash. -/
def escape (f : Flags) (t : Text) : Option (Primitive × Text) :=
  match t with
  | [] => none
  | c :: r =>
    let look := fun l => some (Primitive.look l, r)
    let literal := fun c => some (Primitive.literal c, r)
    match c with
    | 'x' =>
      -- two digits alone name a byte where Unicode is off
      let braced := (f.skip r).head? = some '\x7b'
      match hexEscape f 2 r with
      | some (c, rest) =>
        if f.unicode || braced || c.toNat < 128 then some (.literal c, rest) else none
      | none => none
    | 'u' => (hexEscape f 4 r).map fun (c, rest) => (.literal c, rest)
    | 'U' => (hexEscape f 8 r).map fun (c, rest) => (.literal c, rest)
    | 'p' => (propertyEscape f false r).map fun (s, rest) => (.set s, rest)
    | 'P' => (propertyEscape f true r).map fun (s, rest) => (.set s, rest)
    | 'd' | 's' | 'w' => some (.set (perlClass f.unicode c), r)
    | 'D' | 'S' | 'W' => some (.set (f.negate (perlClass f.unicode c.toLower)), r)
    | 'a' => literal '\x07'
    | 'f' => literal '\x0c'
    | 't' => literal '\t'
    | 'n' => literal '\n'
    | 'r' => literal '\r'
    | 'v' => literal '\x0b'
    | 'A' => look .textStart
    | 'z' => look .textEnd
    | 'b' => borderEscape f r
    | 'B' => look (.noBorder (!f.unicode))
    | '<' => look (.wordStart (!f.unicode))
    | '>' => look (.wordEnd (!f.unicode))
    | _ => if isMeta c || isEscapable c then literal c else none

/-! ### Classes in brackets -/

/-- The operations on sets in brackets. -/
inductive SetOp where
  | inter
  | diff
  | symmDiff

def SetOp.apply : SetOp → CharSet → CharSet → CharSet
  | inter, a, b => a.inter b
  | diff, a, b => a.diff b
  | symmDiff, a, b => a.symmDiff b

/-- A class that is being read: whether it is negated, what is left of an operation that waits for
its right side, and the characters since. -/
structure OpenClass where
  negated : Bool
  pending : Option (CharSet × SetOp) := none
  chars : CharSet := .empty

/-- The set that a class has come to. -/
def OpenClass.value (f : Flags) (k : OpenClass) : CharSet :=
  match k.pending with
  | none => k.chars
  | some (left, op) => op.apply (f.fold left) (f.fold k.chars)

/-- A set joins the class. -/
def OpenClass.add (k : OpenClass) (s : CharSet) : OpenClass := { k with chars := k.chars.union s }

/-- An operation follows. -/
def OpenClass.operate (f : Flags) (k : OpenClass) (op : SetOp) : OpenClass :=
  { k with pending := some (k.value f, op), chars := .empty }

/-- The hyphens in front of a class, which stand for themselves. -/
def leadingHyphens (f : Flags) (k : OpenClass) : Nat → Text → OpenClass × Text
  | 0, t => (k, t)
  | n + 1, t =>
    match t with
    | '-' :: r => leadingHyphens f (k.add (.singleton '-')) n (f.skip r)
    | _ => (k, t)

/-- A class starts behind its bracket: a caret negates it, and hyphens or a closing bracket that
come first stand for themselves. -/
def startClass (f : Flags) (t : Text) : OpenClass × Text :=
  let t := f.skip t
  let (negated, t) := match t with
    | '^' :: r => (true, f.skip r)
    | _ => (false, t)
  let (k, t) := leadingHyphens f { negated } t.length t
  match t with
  | ']' :: r => if k.chars.isEmpty then (k.add (.singleton ']'), f.skip r) else (k, t)
  | _ => (k, t)

/-- A class between colons, behind its bracket: `:alpha:]` or `:^alpha:]`. -/
def posixItem? (f : Flags) (t : Text) : Option (CharSet × Text) :=
  match t with
  | ':' :: r =>
    let (negated, r) := match r with
      | '^' :: r => (true, r)
      | _ => (false, r)
    let name := r.takeWhile (· != ':')
    match r.drop name.length with
    | ':' :: ']' :: rest =>
      match posixClass? (String.ofList name) with
      | some s => some (f.finish negated s, rest)
      | none => none
    | _ => none
  | _ => none

/-- One character or escape in a class. -/
def classItem (f : Flags) (t : Text) : Option (Primitive × Text) :=
  match t with
  | [] => none
  | '\\' :: r => escape f r
  | c :: r => some (.literal c, r)

/-- A literal that a class can hold: without Unicode only ASCII ones. -/
def classLiteral? (f : Flags) (c : Char) : Option Char :=
  if f.unicode || c.toNat < 128 then some c else none

/-- A character, an escape or a range in a class. -/
def classRange (f : Flags) (t : Text) : Option (CharSet × Text) :=
  match classItem f t with
  | none => none
  | some (p, rest) =>
    let rest := f.skip rest
    let single : Option (CharSet × Text) := match p with
      | .literal c => (classLiteral? f c).map fun c => (.singleton c, rest)
      | .set s => some (s, rest)
      | .look _ => none
    match rest with
    | [] => none
    | '-' :: r =>
      let after := f.skip r
      if after.head? = some ']' ∨ after.head? = some '-' then single
      else
        match p, classItem f after with
        | .literal a, some (.literal b, rest) =>
          match classLiteral? f a, classLiteral? f b with
          | some a, some b => if a ≤ b then some (.range a.toNat b.toNat, rest) else none
          | _, _ => none
        | _, _ => none
    | _ => single

/-- Reads a class behind its bracket, in at most `rounds` rounds.  `outer` are the classes around
it, the innermost first. -/
def readClass (f : Flags) (outer : List OpenClass) (k : OpenClass) :
    Nat → Text → Option (CharSet × Text)
  | 0, _ => none
  | rounds + 1, t =>
    match f.skip t with
    | [] => none
    | '[' :: r =>
      match posixItem? f r with
      | some (s, rest) => readClass f outer (k.add s) rounds rest
      | none =>
        let (inner, rest) := startClass f r
        readClass f (k :: outer) inner rounds rest
    | ']' :: r =>
      let s := f.finish k.negated (k.value f)
      match outer with
      | [] => some (s, r)
      | o :: outer => readClass f outer (o.add s) rounds r
    | '&' :: '&' :: r => readClass f outer (k.operate f .inter) rounds r
    | '-' :: '-' :: r => readClass f outer (k.operate f .diff) rounds r
    | '~' :: '~' :: r => readClass f outer (k.operate f .symmDiff) rounds r
    | t =>
      match classRange f t with
      | none => none
      | some (s, rest) => readClass f outer (k.add s) rounds rest

/-- A class behind its bracket, and what follows. -/
def bracketClass (f : Flags) (t : Text) : Option (CharSet × Text) :=
  let (k, rest) := startClass f t
  readClass f [] k (t.length + 1) rest

/-! ### Groups -/

/-- An element of a sequence, with how deep it is nested. -/
inductive Element where
  | expr (e : Expr) (depth : Nat)
  /-- Flags were switched here. -/
  | switch

/-- What was read since a group began: finished alternatives and the current one, in reverse. -/
structure Level where
  alternatives : List (Expr × Nat) := []
  elements : List Element := []

def Level.push (l : Level) (e : Expr) (depth : Nat) : Level :=
  { l with elements := .expr e depth :: l.elements }

/-- The sequence of the current alternative. -/
def Level.sequence (l : Level) : Expr × Nat :=
  let es := l.elements.reverse.filterMap fun e => match e with
    | .expr e d => some (e, d)
    | .switch => none
  let deepest := (es.map (·.2)).foldl max 0
  (Expr.seqAll (es.map (·.1)), if 1 < es.length then deepest + 1 else deepest)

/-- The expression of a level that ends. -/
def Level.close (l : Level) : Expr × Nat :=
  let as := (l.sequence :: l.alternatives).reverse
  let deepest := (as.map (·.2)).foldl max 0
  (Expr.altAll (as.map (·.1)), if 1 < as.length then deepest + 1 else deepest)

/-- A group that is open: its number if it is remembered, and what it returns to. -/
structure OpenGroup where
  index : Option Nat
  level : Level
  flags : Flags

/-- A state of reading. -/
structure Reader where
  flags : Flags := {}
  level : Level := {}
  opens : List OpenGroup := []
  groups : Nat := 0
  names : List (Text × Nat) := []

/-- Reads flags up to a colon or a closing bracket; `seen` are the letters so far. -/
def readFlags (f : Flags) (value : Bool) (seen : List Char) : Text → Option (Flags × Text)
  | [] => none
  | c :: t =>
    if c = ':' ∨ c = ')' then
      if seen.head? = some '-' then none else some (f, c :: t)
    else if seen.contains c then none
    else
      let go := fun f => readFlags f value (c :: seen) t
      match c with
      | '-' => readFlags f false (c :: seen) t
      | 'i' => go { f with caseless := value }
      | 'm' => go { f with multiLine := value }
      | 's' => go { f with dotAll := value }
      | 'U' => go { f with lazyFirst := value }
      | 'u' => go { f with unicode := value }
      | 'R' => go { f with returns := value }
      | 'x' => go { f with verbose := value }
      | _ => none

/-- A text may be the name of a group. -/
def isGroupName (t : Text) : Bool :=
  match t with
  | [] => false
  | c :: r =>
    (c == '_' || Property.alphabetic.contains c) &&
      r.all fun c => c == '_' || c == '.' || c == '[' || c == ']' || Text.isAlphanumeric c

/-- Opens a group that is remembered. -/
def Reader.openGroup (s : Reader) (names : List (Text × Nat)) : Reader :=
  { s with
    level := {}
    opens := ⟨some (s.groups + 1), s.level, s.flags⟩ :: s.opens
    groups := s.groups + 1
    names }

/-- A group behind its bracket. -/
def Reader.group (s : Reader) (t : Text) : Option (Reader × Text) :=
  let t := s.flags.skip t
  let named := match Text.afterPrefix? "?P<".toList t with
    | some r => some r
    | none => Text.afterPrefix? "?<".toList t
  match named with
  | some r =>
    let name := r.takeWhile (· != '>')
    match r.drop name.length with
    | _ :: rest =>
      if isGroupName name && !(s.names.any (·.1 == name)) then
        some (s.openGroup (s.names ++ [(name, s.groups + 1)]), rest)
      else none
    | [] => none
  | none =>
    match t with
    | '?' :: r =>
      match readFlags s.flags true [] r with
      | some (f, ')' :: rest) =>
        if r.head? = some ')' then none
        else
          let level := { s.level with elements := .switch :: s.level.elements }
          some ({ s with flags := f, level }, rest)
      | some (f, _ :: rest) =>
        some ({ s with flags := f, level := {}, opens := ⟨none, s.level, s.flags⟩ :: s.opens }, rest)
      | _ => none
    | _ => some (s.openGroup s.names, t)

/-- The innermost open group ends. -/
def Reader.endGroup (s : Reader) : Option Reader :=
  match s.opens with
  | [] => none
  | g :: opens =>
    let (e, d) := s.level.close
    let e := match g.index with
      | some i => .group i e
      | none => e
    some { s with flags := g.flags, level := g.level.push e (d + 1), opens }

/-! ### Repetitions -/

/-- A number, and what follows; blanks around it do not count. -/
def decimal? (t : Text) : Option (Nat × Text) :=
  let t := t.dropWhile Text.isBlank
  let ds := t.takeWhile Char.isDigit
  match Text.decimal? ds with
  | some n => if n < UInt32.size then some (n, (t.drop ds.length).dropWhile Text.isBlank) else none
  | none => none

/-- The bounds of a counted repetition behind its brace. -/
def bounds? (f : Flags) (t : Text) : Option ((Nat × Option Nat) × Text) :=
  match decimal? (f.skip t) with
  | none => none
  | some (n, ',' :: r) =>
    match f.skip r with
    | '\x7d' :: rest => some ((n, none), rest)
    | r =>
      match decimal? r with
      | some (m, '\x7d' :: rest) => if n ≤ m then some ((n, some m), rest) else none
      | _ => none
  | some (n, '\x7d' :: rest) => some ((n, some n), rest)
  | _ => none

/-- The last element is repeated. -/
def Reader.repeatLast (s : Reader) (min : Nat) (max : Option Nat) (t : Text) :
    Option (Reader × Text) :=
  match s.level.elements with
  | .expr e d :: es =>
    let (marked, rest) := match t with
      | '?' :: r => (true, r)
      | _ => (false, t)
    let e := .repeated min max (marked == s.flags.lazyFirst) e
    some ({ s with level := { s.level with elements := .expr e (d + 1) :: es } }, rest)
  | _ => none

/-! ### Expressions -/

/-- The expression of a literal. -/
def literalExpr (f : Flags) (c : Char) : Option Expr :=
  if f.caseless && !f.unicode && 128 ≤ c.toNat then none
  else some (.char (f.fold (.singleton c)))

/-- The expression of a dot. -/
def dot (f : Flags) : Option Expr :=
  if !f.unicode then none
  else if f.dotAll then some (.char anyChar)
  else if f.returns then some (.char (anyChar.diff (.ofRanges [(10, 10), (13, 13)])))
  else some (.char (anyChar.diff (.singleton '\n')))

/-- The condition of a caret. -/
def caret (f : Flags) : Look :=
  if !f.multiLine then .textStart else if f.returns then .lineStartReturn else .lineStart

/-- The condition of a dollar sign. -/
def dollar (f : Flags) : Look :=
  if !f.multiLine then .textEnd else if f.returns then .lineEndReturn else .lineEnd

/-- The expression of an escape. -/
def Primitive.expr? (f : Flags) : Primitive → Option Expr
  | .literal c => literalExpr f c
  | .set s => f.expr? s
  | .look l => some (.look l)

/-- Reads one element. -/
def Reader.next (s : Reader) (t : Text) : Option (Reader × Text) :=
  let push := fun (e : Option Expr) (rest : Text) =>
    e.map fun e => ({ s with level := s.level.push e 0 }, rest)
  match t with
  | [] => none
  | '(' :: r => s.group r
  | ')' :: r => s.endGroup.map (·, r)
  | '|' :: r =>
    some ({ s with level := { alternatives := s.level.sequence :: s.level.alternatives } }, r)
  | '[' :: r =>
    match bracketClass s.flags r with
    | some (k, rest) =>
      (s.flags.expr? k).map fun e => ({ s with level := s.level.push e 1 }, rest)
    | none => none
  | '?' :: r => s.repeatLast 0 (some 1) r
  | '*' :: r => s.repeatLast 0 none r
  | '+' :: r => s.repeatLast 1 none r
  | '\x7b' :: r =>
    match s.level.elements with
    | .expr _ _ :: _ =>
      match bounds? s.flags r with
      | some ((min, max), rest) => s.repeatLast min max (s.flags.skip rest)
      | none => none
    | _ => none
  | '\\' :: r =>
    match escape s.flags r with
    | some (p, rest) => push (p.expr? s.flags) rest
    | none => none
  | '.' :: r => push (dot s.flags) r
  | '^' :: r => push (some (.look (caret s.flags))) r
  | '$' :: r => push (some (.look (dollar s.flags))) r
  | c :: r => push (literalExpr s.flags c) r

/-- Reads a text to its end, in at most `rounds` rounds. -/
def Reader.readAll (s : Reader) : Nat → Text → Option Reader
  | 0, _ => none
  | rounds + 1, t =>
    match s.flags.skip t with
    | [] => if s.opens.isEmpty then some s else none
    | t =>
      match s.next t with
      | none => none
      | some (s, rest) => s.readAll rounds rest

/-- No expression nests deeper. -/
def depthLimit : Nat := 250

/-- No expression costs more. -/
def costLimit : Nat := 10485760

/-- The regular expression of a text; see above for those that are left out. -/
def parse (t : Text) : Option Regex :=
  match ({} : Reader).readAll (t.length + 1) t with
  | none => none
  | some s =>
    let (e, depth) := s.level.close
    if depthLimit < depth ∨ costLimit < e.cost then none else some ⟨e, s.groups, s.names⟩

end Regex

end ChapterAssembly
