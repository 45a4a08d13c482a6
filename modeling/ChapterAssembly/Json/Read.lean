/-
**Reading JSON as records.**

A text is read from left to right, and every part of it as the kind of value that is wanted there.
The first fault counts: a part that is no JSON, a value of another kind, or the end of the text.

Main definitions:

* `Json.Read` — a reader of values, which takes them off a text;
* `Read.text`, `Read.optional`, `Read.index`, `Read.flag`, `Read.headers` — readers of simple values;
* `Read.record` — a reader of objects, or of arrays that hold their members in order;
* `Read.all` — a text that is one value and nothing else.
-/

import ChapterAssembly.Book.Headers
import ChapterAssembly.Json.Basic
import ChapterAssembly.Text.Utf8

set_option relaxedAutoImplicit false
set_option autoImplicit false

namespace ChapterAssembly

namespace Json

/-- Takes a value off a text. -/
abbrev Read (α : Type) := Text → Except JsonError (α × Text)

namespace Read

/-- The characters that may stand between values. -/
def isSpace (c : Char) : Bool := c == ' ' || c == '\n' || c == '\t' || c == '\r'

/-- A text without the blanks in front. -/
def skip (t : Text) : Text := t.dropWhile isSpace

/-- Takes the given characters. -/
def expect : Text → Text → Except JsonError Text
  | [], t => .ok t
  | _ :: _, [] => .error .truncated
  | w :: ws, c :: t => if w = c then expect ws t else .error .malformed

/-! ### Texts -/

/-- Takes four hexadecimal digits.  Fewer than four bytes are too few, whatever they are. -/
def hexDigits (t : Text) : Except JsonError (Nat × Text) :=
  if Utf8.size (t.take 4) < 4 then .error .truncated
  else
    match (t.take 4).mapM Text.hexValue? with
    | some [a, b, c, d] => .ok (((a * 16 + b) * 16 + c) * 16 + d, t.drop 4)
    | _ => .error .malformed

/-- The character of a single escape. -/
def simpleEscape? (c : Char) : Option Char :=
  match c with
  | '"' | '\\' | '/' => some c
  | 'b' => some '\x08'
  | 'f' => some '\x0c'
  | 'n' => some '\n'
  | 'r' => some '\r'
  | 't' => some '\t'
  | _ => none

/-- The number of the character that two surrogates stand for. -/
def pairValue (high low : Nat) : Nat := 0x10000 + (high - 0xD800) * 0x400 + (low - 0xDC00)

/-- Takes a character behind `\u`.  A high surrogate needs the escape of a low one behind it. -/
def unicodeEscape (t : Text) : Except JsonError (Char × Text) :=
  match hexDigits t with
  | .error e => .error e
  | .ok (n, t) =>
    if 0xDC00 ≤ n ∧ n ≤ 0xDFFF then .error .malformed
    else if n < 0xD800 ∨ 0xDBFF < n then .ok (Char.ofNat n, t)
    else
      match expect ['\\', 'u'] t with
      | .error e => .error e
      | .ok t =>
        match hexDigits t with
        | .error e => .error e
        | .ok (m, t) =>
          if m < 0xDC00 ∨ 0xDFFF < m then .error .malformed
          else .ok (Char.ofNat (pairValue n m), t)

/-- Takes the rest of a text behind its opening quote, in at most `rounds` rounds.  Where the value
is not wanted (`loose`), surrogates need not be paired. -/
def textRest (loose : Bool) : Nat → Read Text
  | 0, _ => .error .truncated
  | _ + 1, [] => .error .truncated
  | rounds + 1, c :: t =>
    if c = '"' then .ok ([], t)
    else if c.toNat < 32 then .error .malformed
    else
      let escaped : Except JsonError (Char × Text) :=
        if c != '\\' then .ok (c, t)
        else
          match t with
          | [] => .error .truncated
          | 'u' :: t =>
            if loose then (hexDigits t).map fun (_, t) => ('?', t) else unicodeEscape t
          | d :: t =>
            match simpleEscape? d with
            | some d => .ok (d, t)
            | none => .error .malformed
      match escaped with
      | .error e => .error e
      | .ok (c, t) => (textRest loose rounds t).map fun (cs, t) => (c :: cs, t)

/-- Takes the rest of a text behind its opening quote. -/
def textBody (loose : Bool) (t : Text) : Except JsonError (Text × Text) :=
  textRest loose (t.length + 1) t

/-! ### Numbers -/

/-- A number as it is read: a whole one, a negative one, or one that is not written as whole. -/
inductive Number where
  | whole (n : Nat)
  | negative (n : Nat)
  | fraction
deriving Repr, DecidableEq

/-- No number from here on can be told from infinity: halfway between the largest double and the
next power of two. -/
def tooLarge : Nat := (Nat.pow 2 54 - 1) * Nat.pow 2 970

/-- A number with an exponent is within range. -/
def inRange (digits : Nat) (decimals exponent : Nat) (negative : Bool) : Bool :=
  digits == 0 || negative || exponent ≤ decimals || (exponent - decimals ≤ 308 &&
    digits * Nat.pow 10 (exponent - decimals) < tooLarge)

/-- The value of decimal digits. -/
def digitsValue (t : Text) : Nat := t.foldl (fun n c => n * 10 + (c.toNat - 48)) 0

/-- Takes the exponent of a number behind its `e`. -/
def exponent (digits decimals : Nat) (t : Text) : Except JsonError Text :=
  let (negative, t) := match t with
    | '+' :: t => (false, t)
    | '-' :: t => (true, t)
    | t => (false, t)
  let ds := t.takeWhile Char.isDigit
  if ds.isEmpty then .error (if t.isEmpty then .truncated else .malformed)
  else if inRange digits decimals (digitsValue ds) negative then .ok (t.drop ds.length)
  else .error .malformed

/-- Takes the decimals and the exponent of a number.  The result says whether there are any. -/
def fraction (whole : Text) (t : Text) : Except JsonError (Bool × Text) :=
  match t with
  | '.' :: t =>
    let ds := t.takeWhile Char.isDigit
    let rest := t.drop ds.length
    if ds.isEmpty then .error (if t.isEmpty then .truncated else .malformed)
    else
      match rest with
      | c :: rest' =>
        if c = 'e' ∨ c = 'E' then
          (exponent (digitsValue (whole ++ ds)) ds.length rest').map (true, ·)
        else .ok (true, rest)
      | [] => .ok (true, [])
  | c :: t' =>
    if c = 'e' ∨ c = 'E' then (exponent (digitsValue whole) 0 t').map (true, ·)
    else .ok (false, t)
  | [] => .ok (false, [])

/-- Takes a number without its sign. -/
def unsigned (negative : Bool) (t : Text) : Except JsonError (Number × Text) :=
  let ds := t.takeWhile Char.isDigit
  let rest := t.drop ds.length
  if ds.isEmpty then .error (if t.isEmpty then .truncated else .malformed)
  else if ds.head? = some '0' ∧ ds ≠ ['0'] then .error .malformed
  else
    match fraction ds rest with
    | .error e => .error e
    | .ok (true, rest) => .ok (.fraction, rest)
    | .ok (false, rest) =>
      let n := digitsValue ds
      if negative then
        .ok (if n = 0 ∨ UInt64.size / 2 < n then .fraction else .negative n, rest)
      else .ok (if n < UInt64.size then .whole n else .fraction, rest)

/-- Takes a number. -/
def number (t : Text) : Except JsonError (Number × Text) :=
  match t with
  | '-' :: t => unsigned true t
  | t => unsigned false t

/-! ### Values that are not wanted -/

/-- Passes over a number whose value does not count. -/
def skipNumber (t : Text) : Except JsonError Text :=
  let t := match t with
    | '-' :: t => t
    | t => t
  let ds := t.takeWhile Char.isDigit
  let t := t.drop ds.length
  if ds.isEmpty ∨ (ds.head? = some '0' ∧ ds ≠ ['0']) then .error .malformed
  else
    let afterDecimals : Except JsonError Text := match t with
      | '.' :: r =>
        let ds := r.takeWhile Char.isDigit
        if ds.isEmpty then .error .malformed else .ok (r.drop ds.length)
      | t => .ok t
    match afterDecimals with
    | .error e => .error e
    | .ok [] => .ok []
    | .ok (c :: r) =>
      if c = 'e' ∨ c = 'E' then
        let r := match r with
          | '+' :: r => r
          | '-' :: r => r
          | r => r
        let ds := r.takeWhile Char.isDigit
        if ds.isEmpty then .error .malformed else .ok (r.drop ds.length)
      else .ok (c :: r)

/-- Passes over the key of a member and its colon, in an object whose value does not count. -/
def skipKey (t : Text) : Except JsonError Text :=
  match skip t with
  | [] => .error .truncated
  | '"' :: t =>
    match textBody true t with
    | .error e => .error e
    | .ok (_, t) =>
      match skip t with
      | [] => .error .truncated
      | ':' :: t => .ok t
      | _ => .error .malformed
  | _ => .error .malformed

mutual

/-- Passes over a value, in at most `rounds` rounds; `opened` are the closing brackets that are
still to come. -/
def skipValueIn : Nat → List Char → Text → Except JsonError Text
  | 0, _, _ => .error .truncated
  | rounds + 1, opened, t =>
    match skip t with
    | [] => .error .truncated
    | c :: t =>
      match c with
      | 'n' => (expect ['u', 'l', 'l'] t).bind (skipAfter rounds opened)
      | 't' => (expect ['r', 'u', 'e'] t).bind (skipAfter rounds opened)
      | 'f' => (expect ['a', 'l', 's', 'e'] t).bind (skipAfter rounds opened)
      | '"' => (textBody true t).bind fun (_, t) => skipAfter rounds opened t
      | '[' =>
        match skip t with
        | ']' :: t => skipAfter rounds opened t
        | [] => .error .truncated
        | t => skipValueIn rounds (']' :: opened) t
      | '\x7b' =>
        match skip t with
        | '\x7d' :: t => skipAfter rounds opened t
        | t => (skipKey t).bind (skipValueIn rounds ('\x7d' :: opened))
      | _ =>
        if c = '-' ∨ c.isDigit then (skipNumber (c :: t)).bind (skipAfter rounds opened)
        else .error .malformed

/-- Passes over what follows a value: the end of what it stands in, or another value. -/
def skipAfter : Nat → List Char → Text → Except JsonError Text
  | _, [], t => .ok t
  | 0, _, _ => .error .truncated
  | rounds + 1, close :: opened, t =>
    match skip t with
    | [] => .error .truncated
    | c :: t =>
      if c = close then skipAfter rounds opened t
      else if c ≠ ',' then .error .malformed
      else if close = ']' then skipValueIn rounds (close :: opened) t
      else (skipKey t).bind (skipValueIn rounds (close :: opened))

end

/-- Passes over a value.  Every round takes a character at least. -/
def skipValue (t : Text) : Except JsonError Text := skipValueIn (2 * t.length + 2) [] t

/-- The error of a value of another kind than is wanted; one that is no JSON counts as such. -/
def mismatch (t : Text) : JsonError :=
  let errorOf {α : Type} : Except JsonError α → JsonError
    | .error e => e
    | .ok _ => .mismatched
  match t with
  | [] => .truncated
  | 'n' :: t => errorOf (expect ['u', 'l', 'l'] t)
  | 't' :: t => errorOf (expect ['r', 'u', 'e'] t)
  | 'f' :: t => errorOf (expect ['a', 'l', 's', 'e'] t)
  | '"' :: t => errorOf (textBody false t)
  | c :: t =>
    if c = '[' ∨ c = '\x7b' then .mismatched
    else if c = '-' ∨ c.isDigit then errorOf (number (c :: t))
    else .malformed

/-! ### Readers -/

/-- A text. -/
def text : Read Text := fun t =>
  match skip t with
  | '"' :: t => textBody false t
  | t => .error (mismatch t)

/-- A value, or `null` for none. -/
def optional {α : Type} (read : Read α) : Read (Option α) := fun t =>
  match skip t with
  | 'n' :: t => (expect ['u', 'l', 'l'] t).map (none, ·)
  | t => (read t).map fun (a, t) => (some a, t)

/-- A whole number of 32 bits. -/
def index : Read UInt32 := fun t =>
  match skip t with
  | [] => .error .truncated
  | c :: t =>
    if c = '-' ∨ c.isDigit then
      match number (c :: t) with
      | .error e => .error e
      | .ok (.whole n, t) => if n < UInt32.size then .ok (n.toUInt32, t) else .error .mismatched
      | .ok _ => .error .mismatched
    else .error (mismatch (c :: t))

/-- A truth value. -/
def flag : Read Bool := fun t =>
  match skip t with
  | 't' :: t => (expect ['r', 'u', 'e'] t).map (true, ·)
  | 'f' :: t => (expect ['a', 'l', 's', 'e'] t).map (false, ·)
  | t => .error (mismatch t)

/-- A key, if there is another member in the object: behind a comma unless it is the first one. -/
def key? (first : Bool) : Read (Option Text) := fun t =>
  let key := fun (t : Text) => match t with
    | '"' :: t => (textBody false t).map fun (k, t) => (some k, t)
    | _ => .error .malformed
  match skip t with
  | [] => .error .truncated
  | '\x7d' :: t => .ok (none, t)
  | c :: t =>
    if first then key (c :: t)
    else if c = ',' then
      match skip t with
      | [] => .error .truncated
      | t => key t
    else .error .malformed

/-- Takes the colon behind a key. -/
def colon (t : Text) : Except JsonError Text :=
  match skip t with
  | [] => .error .truncated
  | ':' :: t => .ok t
  | _ => .error .malformed

/-- The members of an object, each worked into a value together with the keys before it, in at most
`rounds` rounds. -/
def members {σ : Type} (member : List Text → Text → σ → Read σ) :
    Nat → List Text → σ → Read σ
  | 0, _, _, _ => .error .truncated
  | rounds + 1, seen, s, t =>
    match key? seen.isEmpty t with
    | .error e => .error e
    | .ok (none, t) => .ok (s, t)
    | .ok (some k, t) =>
      match member seen k s t with
      | .error e => .error e
      | .ok (s, t) => members member rounds (k :: seen) s t

/-- An object whose members are texts. -/
def headers : Read Headers := fun t =>
  match skip t with
  | '\x7b' :: t =>
    members (fun _ k hs t =>
      (colon t).bind fun t => (text t).map fun (v, t) => (hs.insert k v, t)) (t.length + 1) [] [] t
  | t => .error (mismatch t)

/-- A field of a record: its key, and the reader that sets it. -/
structure Field (σ : Type) where
  key : Text
  set : σ → Read σ

/-- A field whose value is read by `read`. -/
def field {σ α : Type} (key : String) (read : Read α) (set : σ → α → σ) : Field σ :=
  ⟨key, fun s t => (read t).map fun (a, t) => (set s a, t)⟩

/-- Takes the closing bracket of an array. -/
def closeArray (t : Text) : Except JsonError Text :=
  match skip t with
  | [] => .error .truncated
  | ']' :: t => .ok t
  | _ => .error .malformed

/-- The fields of a record that stand in an array in their order; those that are missing at its end
keep their values. -/
def elements {σ : Type} (first : Bool) : List (Field σ) → σ → Read σ
  | [], s, t => (closeArray t).map (s, ·)
  | f :: fs, s, t =>
    let next := fun (t : Text) =>
      match f.set s t with
      | .error e => .error e
      | .ok (s, t) => elements false fs s t
    match skip t with
    | [] => .error .truncated
    | ']' :: t => .ok (s, t)
    | c :: t =>
      if first then next (c :: t)
      else if c ≠ ',' then .error .malformed
      else
        match skip t with
        | [] => .error .truncated
        | ']' :: _ => .error .malformed
        | t => next t

/-- A record: an object, each of whose fields may stand in it once, or an array of the fields.
Fields that are missing keep the values they have in `start`; other members do not count. -/
def record {σ : Type} (fields : List (Field σ)) (start : σ) : Read σ := fun t =>
  match skip t with
  | '\x7b' :: t =>
    members (fun seen k s t =>
      match fields.find? (·.key == k) with
      | some f =>
        if seen.contains k then .error .mismatched
        else (colon t).bind (f.set s)
      | none => (colon t).bind fun t => (skipValue t).map (s, ·)) (t.length + 1) [] start t
  | '[' :: t => elements true fields start t
  | t => .error (mismatch t)

/-- A text that is one value and nothing else. -/
def all {α : Type} (read : Read α) (t : Text) : Except JsonError α :=
  match read t with
  | .error e => .error e
  | .ok (a, rest) => if (skip rest).isEmpty then .ok a else .error .malformed

end Read

end Json

end ChapterAssembly
