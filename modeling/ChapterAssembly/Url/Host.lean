/-
**Hosts.**

The host of a URL is a domain name, an IPv4 address or an IPv6 address.  A URL of a special scheme
has its host decoded and brought into ASCII; if its last label is a number the whole is an IPv4
address, in one to four parts that may be octal or hexadecimal.

Main definitions:

* `ChapterAssembly.Host` — a host, written by `Host.text`;
* `Host.ofSpecial` — the host of a special scheme;
* `Host.ofOther` — the host of any other scheme.
-/

import ChapterAssembly.Url.Domain
import ChapterAssembly.Url.Error
import ChapterAssembly.Url.Percent

set_option relaxedAutoImplicit false
set_option autoImplicit false

namespace ChapterAssembly

/-- A host. -/
inductive Host where
  | domain (name : Text)
  | ipv4 (address : Nat)
  | ipv6 (pieces : List Nat)
deriving Repr, DecidableEq, BEq

namespace Host

/-! ### IPv4 addresses -/

/-- A number in the given base; `none` if a character is no digit of it. -/
def number? (base : Nat) (t : Text) : Option Nat :=
  t.foldlM (fun n c => (Text.hexValue? c).bind fun d => if d < base then some (n * base + d) else none) 0

/-- A part of an IPv4 address: decimal, octal after `0`, or hexadecimal after `0x`. -/
def ipv4Number? : Text → Option Nat
  | [] => none
  | '0' :: 'x' :: t => number? 16 t
  | '0' :: 'X' :: t => number? 16 t
  | '0' :: c :: t => number? 8 (c :: t)
  | t => number? 10 t

/-- The parts of a name between dots; a dot at the very end does not count. -/
def dotParts (t : Text) : List Text :=
  let parts := Text.splitOnChar '.' t
  if parts.getLast? = some [] ∧ 1 < parts.length then parts.dropLast else parts

/-- Whether the last part of a name is a number, so that the name is to be an IPv4 address. -/
def endsInNumber (t : Text) : Bool :=
  match (dotParts t).getLast? with
  | none | some [] => false
  | some p => p.all Text.isAsciiDigit || (ipv4Number? p).isSome

/-- The address of up to four numbers: each but the last is one byte, the last fills the rest. -/
def ipv4OfNumbers? (ns : List Nat) : Option Nat :=
  match ns.getLast? with
  | none => none
  | some last =>
    let front := ns.dropLast
    if ns.length > 4 || front.any (255 < ·) || Nat.pow 256 (4 - front.length) ≤ last then none
    else some (front.zipIdx.foldl (fun sum (n, i) => sum + n * Nat.pow 256 (3 - i)) last)

def ipv4? (t : Text) : Option Nat := ((dotParts t).mapM ipv4Number?).bind ipv4OfNumbers?

def ipv4Text (n : Nat) : Text :=
  Text.joinWith ['.'] ([24, 16, 8, 0].map fun s => Text.ofNat (n / Nat.pow 2 s % 256))

/-! ### IPv6 addresses -/

/-- A piece of an IPv6 address: one to four hexadecimal digits. -/
def piece? (t : Text) : Option Nat :=
  if t.isEmpty || 4 < t.length then none else number? 16 t

/-- One of the four numbers at the end of an IPv6 address: decimal, at most 255, without leading
zeros. -/
def byte? (t : Text) : Option Nat :=
  match Text.decimal? t with
  | some n => if n ≤ 255 ∧ (t.head? ≠ some '0' ∨ t.length = 1) then some n else none
  | none => none

/-- The two pieces written as four decimal numbers. -/
def dottedPieces? (t : Text) : Option (List Nat) :=
  match (Text.splitOnChar '.' t).mapM byte? with
  | some [a, b, c, d] => some [a * 256 + b, c * 256 + d]
  | _ => none

/-- The pieces of one side of `::`; only the last of an address may be dotted. -/
def pieces? (dotted : Bool) (t : Text) : Option (List Nat) :=
  if t.isEmpty then some []
  else
    let parts := Text.splitOnChar ':' t
    match parts.getLast? with
    | none => some []
    | some last =>
      if dotted && last.contains '.' then do
        let front ← parts.dropLast.mapM piece?
        let back ← dottedPieces? last
        return front ++ back
      else parts.mapM piece?

/-- The eight pieces of an IPv6 address; `::` stands for one zero piece or more. -/
def ipv6? (t : Text) : Option (List Nat) :=
  match Text.cutAt? "::".toList t with
  | none =>
    match pieces? true t with
    | some ps => if ps.length = 8 then some ps else none
    | none => none
  | some (a, b) =>
    match pieces? false a, pieces? true b with
    | some ps, some qs =>
      if ps.length + qs.length < 8 then
        some (ps ++ List.replicate (8 - ps.length - qs.length) 0 ++ qs)
      else none
    | _, _ => none

/-- The length of the run of zeros at the start of a list. -/
def zeros (ps : List Nat) : Nat := (ps.takeWhile (· == 0)).length

/-- The position of the first longest run of at least two zero pieces. -/
def longestZeros? (ps : List Nat) : Option Nat :=
  let runs := (List.range ps.length).map fun i => zeros (ps.drop i)
  match runs.max? with
  | some m => if 2 ≤ m then runs.findIdx? (· == m) else none
  | none => none

def ipv6Text (ps : List Nat) : Text :=
  let hex := ps.map (Nat.toDigits 16)
  let colon := Text.joinWith [':']
  match longestZeros? ps with
  | none => colon hex
  | some i => colon (hex.take i) ++ "::" ++ colon (hex.drop (i + zeros (ps.drop i)))

/-! ### Hosts -/

/-- The host as it stands in a URL. -/
def text : Host → Text
  | domain t => t
  | ipv4 n => ipv4Text n
  | ipv6 ps => '[' :: ipv6Text ps ++ [']']

/-- The address in brackets, if the text starts with one. -/
def bracketed? (t : Text) : Option (Except UrlError Host) :=
  match t with
  | '[' :: r =>
    some <|
      if r.getLast? = some ']' then
        match ipv6? r.dropLast with
        | some ps => .ok (.ipv6 ps)
        | none => .error .invalidIpv6
      else .error .invalidIpv6
  | _ => none

/-- The host of a special scheme. -/
def ofSpecial (t : Text) : Except UrlError Host :=
  match bracketed? t with
  | some r => r
  | none =>
    match Domain.toAscii? (Utf8.decodeLossy (Percent.decode t)) with
    | none => .error .invalidDomain
    | some d =>
      if d.isEmpty then .error .emptyHost
      else if endsInNumber d then
        match ipv4? d with
        | some n => .ok (.ipv4 n)
        | none => .error .invalidIpv4
      else .ok (.domain d)

/-- The characters that no host of a scheme without rules of its own may hold. -/
def isForbidden (c : Char) : Bool := "\x00\t\n\r #/:<>?@[\\]^|".toList.contains c

/-- The host of a scheme without rules of its own. -/
def ofOther (t : Text) : Except UrlError Host :=
  match bracketed? t with
  | some r => r
  | none =>
    if t.any isForbidden then .error .invalidHostCharacter
    else .ok (.domain (Percent.encode Percent.control t))

end Host

end ChapterAssembly
